/-
# What holds of a polling ingestion between two callbacks

As long as a polling ingestion is armed, one tick is pending, and its table of reads in
flight lists exactly those that have not ended, one of a located kind each.  Once it was
disarmed, no tick is pending and the table is empty.

`Attends` lists what a callback may do about a polling ingestion: a tick of it goes off,
a read of it begins or ends, it is disarmed, or it is left alone.  Each of these
preserves what holds.
-/

import SensorLink.Proofs.Ingestion.Polling

namespace SensorLink

namespace Link

open Gatt (Ending Entry HandleMap)
open Sensor (Kind)

variable {δ : Type}

/-- A polling ingestion that is armed. -/
structure Active (i : Nat) (l : Link δ) (g : Ingestion δ) (p : Polling δ) : Prop where
  found : l.ingestions[i]? = some g
  polls : g.strategy = .poll p
  armed : g.armed = true
  /-- One tick is pending, the one that was set last. -/
  pending : ∃ n, p.timer = some (.tick i n) ∧ p.scheduled = n + 1 ∧ l.loop.pendingTicks i = [n]
  /-- The reads in flight are those that have not ended. -/
  reads : ∀ kind n, l.loop.isLive (.read i kind n) = true ↔
    p.inFlight.get kind = some (.read i kind n)
  own : ∀ kind task, p.inFlight.get kind = some task → ∃ n, task = .read i kind n ∧ n ≤ p.ticks
  located : ∀ kind task, p.inFlight.get kind = some task →
    kind ∈ g.handles.entries.map Entry.kind

/-- A polling ingestion that was disarmed. -/
structure Retired (i : Nat) (l : Link δ) (g : Ingestion δ) (p : Polling δ) : Prop where
  found : l.ingestions[i]? = some g
  polls : g.strategy = .poll p
  disarmed : g.armed = false
  untimed : p.timer = none
  pending : l.loop.pendingTicks i = []
  idle : ∀ kind, p.inFlight.get kind = none

/-- What a callback may do about a polling ingestion, given the timer that it is the callback
of. -/
inductive Attends (cfg : Settings δ) (i : Nat) (l : Link δ) : Option TimerId → Link δ → Prop
  /-- A tick goes off. -/
  | ticks {n : Nat} : .tick i n ∈ l.loop.timers →
    Attends cfg i l (some (.tick i n)) ((l.onLoop (·.expire (.tick i n))).tick cfg i)
  /-- A read takes its first step. -/
  | begins {env : Surroundings} {kind : Kind} {n session : Nat} {handle : Option Int} :
    l.loop.isLive (.read i kind n) = true →
    Attends cfg i l none (l.beginRead cfg env i kind n session handle)
  /-- The call of a read ends, in whatever way. -/
  | ends {env : Surroundings} {kind : Kind} {n : Nat} {handle : Option Int} {ending : Ending} :
    l.loop.isLive (.read i kind n) = true →
    Attends cfg i l none (l.resumeRead cfg env i kind n handle ending)
  /-- The ingestion is disarmed, whatever else the callback does. -/
  | disarms {cause : Option TimerId} {l₁ l' : Link δ} : (∀ n, cause ≠ some (.tick i n)) →
    Spares i l l₁ → Spares i (l₁.disarm i) l' → Attends cfg i l cause l'
  /-- The ingestion is left alone. -/
  | spares {cause : Option TimerId} {l' : Link δ} : (∀ n, cause ≠ some (.tick i n)) →
    Spares i l l' → Attends cfg i l cause l'

variable {cfg : Settings δ} {l l' l'' : Link δ} {i n : Nat} {g : Ingestion δ} {p : Polling δ}
  {kind : Kind} {env : Surroundings}

namespace Active

theorem spares (active : Active i l g p) (spares : Spares i l l') :
    ∃ malformed, Active i l' { g with malformed } p := by
  obtain ⟨malformed, found⟩ := spares.ingestion g active.found
  obtain ⟨n, timer, scheduled, pending⟩ := active.pending
  exact ⟨malformed, { active with
    found
    pending := ⟨n, timer, scheduled, spares.ticks.trans pending⟩
    reads := fun kind n => by rw [spares.reads]; exact active.reads kind n }⟩

theorem outstanding_iff (active : Active i l g p) :
    l.loop.Outstanding i kind ↔ p.inFlight.get kind ≠ none := by
  constructor
  · rintro ⟨n, live⟩
    rw [(active.reads kind n).mp live]
    nofun
  · intro some
    obtain ⟨task, read⟩ := Option.ne_none_iff_exists'.mp some
    obtain ⟨n, rfl, -⟩ := active.own kind task read
    exact ⟨n, (active.reads kind n).mpr read⟩

end Active

theorem Retired.spares (retired : Retired i l g p) (spares : Spares i l l') :
    ∃ malformed, Retired i l' { g with malformed } p := by
  obtain ⟨malformed, found⟩ := spares.ingestion g retired.found
  exact ⟨malformed, { retired with found, pending := spares.ticks.trans retired.pending }⟩

theorem scheduleTick_eq (found : l.ingestions[i]? = some g) (polls : g.strategy = .poll p)
    (wait : Wait δ) : l.scheduleTick i wait =
      (l.onIngestion i fun g => { g with strategy := .poll { p with
        timer := some (.tick i p.scheduled), scheduled := p.scheduled + 1 } }).onLoop
          (·.schedule (.tick i p.scheduled) wait) := by
  obtain ⟨session, generation, handles, armed, malformed, strategy⟩ := g
  obtain rfl : strategy = .poll p := polls
  rw [scheduleTick, found]

/-- Arming sets the timer of the first tick. -/
theorem Active.arm {interval : δ} {session generation : Nat} {handles : HandleMap}
    (created : l.ingestions[i]? = some (.create (.poll interval) session generation handles))
    (unset : l.loop.pendingTicks i = [])
    (unread : ∀ kind n, l.loop.isLive (.read i kind n) = false) (cfg : Settings δ) :
    ∃ g p, Active i (l.arm cfg i) g p ∧ g.session = session ∧ g.generation = generation ∧
      g.handles = handles ∧ p.interval = interval ∧
      (l.arm cfg i).loop = l.loop.schedule (.tick i 0) .soon := by
  have armed := getElem?_onIngestion created fun g => { g with armed := true }
  have whole : l.arm cfg i =
      (l.onIngestion i fun g => { g with armed := true }).scheduleTick i .soon := by
    rw [Link.arm, created]
    rfl
  rw [whole, scheduleTick_eq armed rfl .soon]
  refine ⟨_, _, ⟨getElem?_onIngestion armed _, rfl, rfl, ⟨0, rfl, rfl, ?_⟩, fun kind n => ?_,
    ?_, ?_⟩, rfl, rfl, rfl, rfl, rfl⟩
  · exact (Loop.pendingTicks_schedule _ _ _ _).trans (congrArg _ unset)
  · have unborn := Bool.eq_false_iff.mp (unread kind n)
    exact iff_of_false unborn (by simp)
  · intro kind task read
    simp at read
  · intro kind task read
    simp at read

/-- The entries that a tick reads. -/
def dueEntries (l : Link δ) (g : Ingestion δ) (p : Polling δ) : List Entry :=
  if l.machine.isReady && l.machine.isCurrent g.generation then
    g.handles.entries.filter fun e => (p.inFlight.get e.kind).isNone
  else []

theorem mem_dueEntries {e : Entry} : e ∈ l.dueEntries g p ↔
    (l.machine.state = .ready ∧ l.machine.generation = g.generation) ∧
      e ∈ g.handles.entries ∧ p.inFlight.get e.kind = none := by
  have serves : (l.machine.isReady && l.machine.isCurrent g.generation) = true ↔
      l.machine.state = .ready ∧ l.machine.generation = g.generation := by
    rw [Bool.and_eq_true, Connection.Machine.isCurrent_natCast, beq_iff_eq]
    exact and_congr (by simp [Connection.Machine.isReady]) eq_comm
  unfold dueEntries
  split
  · rename_i here
    rw [List.mem_filter, Option.isNone_iff_eq_none]
    exact (and_iff_right (serves.mp here)).symm
  · rename_i elsewhere
    exact iff_of_false List.not_mem_nil fun due => elsewhere (serves.mpr due.1)

/-- A tick reads no kind twice. -/
theorem nodup_dueEntries (l : Link δ) (g : Ingestion δ) (p : Polling δ) :
    ((l.dueEntries g p).map Entry.kind).Nodup := by
  unfold dueEntries
  split
  · exact g.handles.distinct.sublist (List.filter_sublist.map _)
  · exact List.nodup_nil

theorem pollOnce_issues (l : Link δ) (cfg : Settings δ) (i : Nat) (g : Ingestion δ)
    (p : Polling δ) : Issues i p.ticks g.session (l.dueEntries g p) l (l.pollOnce cfg i g p) := by
  unfold dueEntries pollOnce
  split
  · exact .entries cfg i g.session p.ticks p g.handles.distinct l
  · exact .record i p.ticks g.session l cfg _

theorem onPolling_eq (polls : g.strategy = .poll p) (f : Polling δ → Polling δ) :
    g.onPolling f = { g with strategy := .poll (f p) } := by
  rw [Ingestion.onPolling, polls]

/-- A tick of an ingestion that is armed takes its timer and counts, issues reads of the due
entries, and sets the timer of the next tick. -/
theorem tick_eq (found : l.ingestions[i]? = some g) (polls : g.strategy = .poll p)
    (armed : g.armed = true) (cfg : Settings δ) : ∃ l₁ l₂,
      l₁.ingestions[i]? = some { g with
        strategy := .poll { p with timer := none, ticks := p.ticks + 1 } } ∧
      l₁.loop = l.loop ∧
      Issues i (p.ticks + 1) g.session (l.dueEntries g p) l₁ l₂ ∧
      l.tick cfg i = l₂.scheduleTick i (.delay p.interval) := by
  have untimed := getElem?_onIngestion found (Ingestion.onPolling fun p => { p with timer := none })
  rw [onPolling_eq polls] at untimed
  have counted := getElem?_onIngestion untimed
    (Ingestion.onPolling fun p => { p with ticks := p.ticks + 1 })
  rw [onPolling_eq rfl] at counted
  generalize same : (l.onIngestion i _).onIngestion i _ = l₁ at counted
  have issues := pollOnce_issues l₁ cfg i g { p with ticks := p.ticks + 1 }
  have due : l₁.dueEntries g { p with ticks := p.ticks + 1 } = l.dueEntries g p := by
    rw [← same]
    rfl
  rw [due] at issues
  refine ⟨l₁, _, counted, by rw [← same]; rfl, issues, ?_⟩
  rw [tick, found]
  simp only [polls, armed, if_true, same]

/-- The table of reads after reads of the due entries were issued lists what has not ended. -/
theorem Active.reads_issues (active : Active i l g p) {l₁ l₂ : Link δ}
    (same : ∀ task, l₁.loop.point? task = l.loop.point? task)
    (issues : Issues i (p.ticks + 1) g.session (l.dueEntries g p) l₁ l₂)
    {inFlight : Sensor.PerKind (Option TaskId)}
    (entered : ∀ kind, inFlight.get kind =
      if kind ∈ (l.dueEntries g p).map Entry.kind then some (.read i kind (p.ticks + 1))
      else p.inFlight.get kind) (kind : Kind) (n : Nat) :
    l₂.loop.isLive (.read i kind n) = true ↔ inFlight.get kind = some (.read i kind n) := by
  rw [entered]
  by_cases due : kind ∈ (l.dueEntries g p).map Entry.kind
  · obtain ⟨e, mem, rfl⟩ := List.mem_map.mp due
    rw [if_pos due]
    by_cases new : n = p.ticks + 1
    · subst new
      rw [Loop.isLive, issues.begun e mem]
      simp
    · -- The previous read of the kind has ended, so no older one is live.
      have ended := (active.reads e.kind n).not.mpr (by simp [(mem_dueEntries.mp mem).2.2])
      rw [Loop.isLive, issues.others _ _ fun same => absurd same new, same]
      simpa [Loop.isLive, Ne.symm new] using ended
  · rw [if_neg due, Loop.isLive, issues.others _ _ fun _ => due, same]
    exact active.reads kind n

/-- A tick issues reads of the due entries, and sets the timer of the next tick. -/
theorem Active.ticked (active : Active i l g p) (live : .tick i n ∈ l.loop.timers)
    (cfg : Settings δ) :
    let after := (l.onLoop (·.expire (.tick i n))).tick cfg i
    ∃ p', Active i after { g with strategy := .poll p' } p' ∧ p'.interval = p.interval ∧
      after.loop.issued i = l.loop.issued i ++ (l.dueEntries g p).map Entry.kind ∧
      (∀ e ∈ l.dueEntries g p,
        after.loop.point? (.read i e.kind p'.ticks) = some (.readStart g.session e.handle)) ∧
      p'.timer = some (.tick i (n + 1)) ∧
      .schedule (.tick i (n + 1)) (.delay p.interval) ∈ after.loop.tape := by
  intro after
  obtain ⟨m, timer, scheduled, pending⟩ := active.pending
  obtain rfl : n = m := by simpa [pending] using Loop.mem_pendingTicks.mpr live
  obtain ⟨l₁, l₂, counted, same, issues, ticked⟩ :=
    tick_eq (l := l.onLoop (·.expire (.tick i n))) active.found active.polls active.armed cfg
  obtain ⟨inFlight, issued, entered⟩ := issues.ingestion _ _ counted rfl
  have set : after = _ := ticked.trans (scheduleTick_eq issued rfl _)
  have unset : l₂.loop.pendingTicks i = [] := by
    refine Loop.pendingTicks_filter pending ?_
    rw [issues.timers, same]
    rfl
  have reads := active.reads_issues (fun task => by rw [same]; rfl) issues entered
  rw [set]
  refine ⟨_, ⟨getElem?_onIngestion issued _, rfl, active.armed, ⟨n + 1, ?_, ?_, ?_⟩, reads,
    ?_, ?_⟩, rfl, ?_, ?_, ?_, ?_⟩
  · simp only [scheduled]
  · simp only [scheduled]
  · rw [scheduled]
    exact (Loop.pendingTicks_schedule _ _ _ _).trans (congrArg _ unset)
  · intro kind task read
    rw [entered] at read
    split at read
    · exact ⟨_, (Option.some.inj read).symm, Nat.le_refl _⟩
    · obtain ⟨m, rfl, le⟩ := active.own kind task read
      exact ⟨m, rfl, Nat.le_succ_of_le le⟩
  · intro kind task read
    rw [entered] at read
    split at read
    · rename_i due
      obtain ⟨e, mem, rfl⟩ := List.mem_map.mp due
      exact List.mem_map_of_mem (mem_dueEntries.mp mem).2.1
    · exact active.located kind task read
  · exact (Loop.issued_schedule _ _ _ _).trans (issues.issued.trans (by rw [same]; rfl))
  · exact issues.begun
  · simp only [scheduled]
  · rw [scheduled]
    exact List.mem_append_right _ (List.mem_singleton_self _)

/-- A read has ended, and the ingestion forgets it if it is the one in flight. -/
def settled (l : Link δ) (i : Nat) (kind : Kind) (n : Nat) : Link δ :=
  (l.onLoop (·.finish (.read i kind n) .done)).onIngestion i
    (Ingestion.settleRead kind (.read i kind n))

/-- What follows the end of a read spares the ingestion. -/
theorem completeRead_spares (l : Link δ) (cfg : Settings δ) (env : Surroundings) (i : Nat)
    (task : TaskId) (kind : Kind) (result : Option (Except Failure (List UInt8))) :
    Spares i (l.onIngestion i (Ingestion.settleRead kind task))
      (l.completeRead cfg env i task kind result).1 := by
  unfold completeRead
  dsimp only
  split
  · exact .refl i _
  · split
    · exact .refl i _
    · split
      · exact .note i _ cfg _ _
      · split
        · split
          · exact .note i _ cfg _ _
          · exact .record i _ cfg _
        · exact .ingest i i _ cfg env kind _

theorem settled_spares_resumeRead (l : Link δ) (cfg : Settings δ) (env : Surroundings) (i : Nat)
    (kind : Kind) (n : Nat) (handle : Option Int) (ending : Ending) :
    Spares i (l.settled i kind n) (l.resumeRead cfg env i kind n handle ending) :=
  .report (completeRead_spares _ cfg env i _ kind _)

/-- The first step of a read ends it, or lets it wait for its call. -/
theorem beginRead_cases (live : l.loop.isLive (.read i kind n) = true) (cfg : Settings δ)
    (env : Surroundings) (session : Nat) (handle : Option Int) :
    Spares i (l.settled i kind n) (l.beginRead cfg env i kind n session handle) ∨
      Spares i l (l.beginRead cfg env i kind n session handle) := by
  unfold beginRead
  dsimp only
  split
  · exact .inl (.report (completeRead_spares _ cfg env i _ kind _))
  · exact .inr (.request live session _ _)

theorem issued_settled (l : Link δ) (i : Nat) (kind : Kind) (n : Nat) :
    (l.settled i kind n).loop.issued i = l.loop.issued i :=
  Loop.issued_finish _ _ _ _

theorem isLive_settled (l : Link δ) (i : Nat) (kind : Kind) (n : Nat) (task : TaskId) :
    (l.settled i kind n).loop.isLive task =
      if task = .read i kind n then false else l.loop.isLive task := by
  refine (congrArg Option.isSome (Loop.point?_finish ..)).trans ?_
  split <;> rfl

/-- What remains in flight when a read has ended. -/
theorem Active.settled (active : Active i l g p) (kind : Kind) (n : Nat) :
    ∃ p', Active i (l.settled i kind n) { g with strategy := .poll p' } p' ∧
      p'.interval = p.interval := by
  have found := getElem?_onIngestion
    (l := l.onLoop (·.finish (.read i kind n) .done)) active.found
    (Ingestion.settleRead kind (.read i kind n))
  rw [Ingestion.settleRead, onPolling_eq active.polls] at found
  by_cases here : p.inFlight.get kind = some (.read i kind n)
  · rw [if_pos here] at found
    have kept {other : Kind} {task : TaskId}
        (read : (p.inFlight.set kind none).get other = some task) :
        p.inFlight.get other = some task := by
      rw [Sensor.PerKind.get_set] at read
      split at read
      · cases read
      · exact read
    refine ⟨_, { active with
      found
      polls := rfl
      reads := fun other m => ?_
      own := fun other task read => active.own other task (kept read)
      located := fun other task read => active.located other task (kept read) }, rfl⟩
    rw [isLive_settled, Sensor.PerKind.get_set]
    by_cases same : other = kind
    · subst same
      rw [if_pos rfl]
      have other (live : l.loop.isLive (.read i other m) = true) : m = n := by
        simpa [here] using ((active.reads other m).mp live).symm
      split
      · simp
      · rename_i different
        exact iff_of_false (fun live => different (by rw [other live])) nofun
    · rw [if_neg (by simp [same]), if_neg same]
      exact active.reads other m
  · rw [if_neg here] at found
    refine ⟨_, { active with
      found
      polls := rfl
      reads := fun other m => ?_ }, rfl⟩
    rw [isLive_settled]
    split
    · rename_i same
      obtain ⟨rfl, rfl⟩ : other = kind ∧ m = n := by simpa using same
      simp [here]
    · exact active.reads other m

theorem Retired.settled (retired : Retired i l g p) (kind : Kind) (n : Nat) :
    ∃ p', Retired i (l.settled i kind n) { g with strategy := .poll p' } p' ∧
      p'.interval = p.interval := by
  have found := getElem?_onIngestion
    (l := l.onLoop (·.finish (.read i kind n) .done)) retired.found
    (Ingestion.settleRead kind (.read i kind n))
  rw [Ingestion.settleRead, onPolling_eq retired.polls, if_neg (by simp [retired.idle])] at found
  exact ⟨p, { retired with found, polls := rfl }, rfl⟩

theorem Loop.timers_cancelAll (tasks : List TaskId) (l : Loop δ) :
    (tasks.foldl (fun l task => l.cancel task) l).timers = l.timers := by
  induction tasks generalizing l with
  | nil => rfl
  | cons task rest ih => exact (ih _).trans (timers_cancel l task)

theorem Loop.issued_cancelAll (tasks : List TaskId) (l : Loop δ) (i : Nat) :
    (tasks.foldl (fun l task => l.cancel task) l).issued i = l.issued i := by
  induction tasks generalizing l with
  | nil => rfl
  | cons task rest ih => exact (ih _).trans (issued_cancel l task i)

/-- Disarming takes the timer back, cancels the reads in flight, and forgets both. -/
theorem disarm_eq_of_poll (found : l.ingestions[i]? = some g) (polls : g.strategy = .poll p) :
    l.disarm i = (l.onLoop fun loop => g.pendingTasks.foldl (fun l task => l.cancel task)
      (p.timer.elim loop loop.unschedule)).onIngestion i .disarmed := by
  rw [disarm, found]
  simp only [foldl_onLoop, polls]
  obtain ⟨interval, timer, inFlight, ticks, scheduled⟩ := p
  cases timer <;> rfl

theorem disarmed_eq (polls : g.strategy = .poll p) :
    g.disarmed = { g with
      armed := false
      handles := .empty
      strategy := .poll { p with timer := none, inFlight := .const none } } := by
  rw [Ingestion.disarmed, polls]

/-- What holds of an ingestion after it was disarmed follows from its timer alone. -/
theorem retired_disarm (found : l.ingestions[i]? = some g) (polls : g.strategy = .poll p)
    (untimed : (p.timer.elim l.loop l.loop.unschedule).pendingTicks i = []) :
    ∃ p', Retired i (l.disarm i) { g with
      armed := false, handles := .empty, strategy := .poll p' } p' ∧ p'.interval = p.interval := by
  rw [disarm_eq_of_poll found polls]
  have gone := getElem?_onIngestion (l := l.onLoop fun loop =>
    g.pendingTasks.foldl (fun l task => l.cancel task) (p.timer.elim loop loop.unschedule))
    found .disarmed
  rw [disarmed_eq polls] at gone
  refine ⟨_, ⟨gone, rfl, rfl, rfl, ?_, fun kind => Sensor.PerKind.get_const none kind⟩, rfl⟩
  exact (Loop.pendingTicks_congr (Loop.timers_cancelAll _ _) i).trans untimed

theorem Active.disarm (active : Active i l g p) :
    ∃ p', Retired i (l.disarm i) { g with
      armed := false, handles := .empty, strategy := .poll p' } p' ∧ p'.interval = p.interval := by
  refine retired_disarm active.found active.polls ?_
  obtain ⟨n, timer, -, pending⟩ := active.pending
  rw [timer, Option.elim_some]
  exact Loop.pendingTicks_filter pending rfl

theorem Retired.disarm (retired : Retired i l g p) :
    ∃ p', Retired i (l.disarm i) { g with
      armed := false, handles := .empty, strategy := .poll p' } p' ∧ p'.interval = p.interval := by
  refine retired_disarm retired.found retired.polls ?_
  rw [retired.untimed]
  exact retired.pending

/-- Disarming sets no timer. -/
theorem timers_disarm_subset (l : Link δ) (i : Nat) :
    (l.disarm i).loop.timers ⊆ l.loop.timers := by
  rw [disarm]
  split
  · simp only [foldl_onLoop]
    intro timer live
    split at live
    · have before := (congrArg (timer ∈ ·) (Loop.timers_cancelAll _ _)).mp live
      exact List.mem_of_mem_filter before
    · exact (congrArg (timer ∈ ·) (Loop.timers_cancelAll _ _)).mp live
  · exact List.Subset.refl _

theorem issued_disarm (found : l.ingestions[i]? = some g) (polls : g.strategy = .poll p) :
    (l.disarm i).loop.issued i = l.loop.issued i := by
  rw [disarm_eq_of_poll found polls]
  refine (Loop.issued_cancelAll _ _ i).trans ?_
  cases p.timer with
  | none => rfl
  | some timer => exact Loop.issued_unschedule _ _ i

end Link

end SensorLink
