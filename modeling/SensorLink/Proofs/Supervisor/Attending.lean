/-
# Runs as histories of polling

Seen from a polling ingestion, a run of the supervisor begins with the callback that
creates it.  From then on each callback is a tick of it, works on one of its reads,
disarms it, or leaves it alone.  So the callbacks of the run make one of the histories
that `Polls` describes, and where the run is punctual, so is the history.
-/

import SensorLink.Proofs.Ingestion.Discipline
import SensorLink.Proofs.Supervisor.Leaving
import SensorLink.Proofs.Supervisor.Reckoning
import SensorLink.Proofs.Supervisor.Restart

namespace SensorLink

open Gatt (Ending)
open Link (Assignment Attends Callback Point Polls Punctual Settings Surroundings TaskId
  TimerId)

namespace Link

variable {δ : Type} {cfg : Settings δ} {l l' : Link δ} {i : Nat} {cause : Option TimerId}

/-- Nothing on the loop belongs to an ingestion. -/
def Unborn (i : Nat) (l : Link δ) : Prop :=
  l.loop.pendingTicks i = [] ∧ ∀ kind, ¬l.loop.Outstanding i kind

/-- An ingestion is created and armed, and otherwise left alone. -/
def Creates (cfg : Settings δ) (i : Nat) (l l' : Link δ) : Prop :=
  i = l.ingestions.length ∧ ∃ mode session generation handles l₁, cfg.mode = .ok mode ∧
    Spares i l l₁ ∧ l₁.ingestions[i]? = some (.create mode session generation handles) ∧
    Spares i (l₁.arm cfg i) l'

theorem Spares.unborn (spares : Spares i l l') (unborn : Unborn i l) : Unborn i l' := by
  refine ⟨spares.ticks.trans unborn.1, fun kind ⟨n, live⟩ => unborn.2 kind ⟨n, ?_⟩⟩
  rw [← spares.reads]
  exact live

theorem Loop.isLive_cancelAll (tasks : List TaskId) (l : Loop δ) (task : TaskId) :
    (tasks.foldl (fun l task => l.cancel task) l).isLive task = l.isLive task := by
  induction tasks generalizing l with
  | nil => rfl
  | cons first rest ih => exact (ih _).trans (isLive_cancel l first task)

/-- Disarming ends no task. -/
theorem isLive_disarm (l : Link δ) (i : Nat) (task : TaskId) :
    (l.disarm i).loop.isLive task = l.loop.isLive task := by
  unfold disarm
  split
  · simp only [foldl_onLoop]
    refine (Loop.isLive_cancelAll _ _ task).trans ?_
    split <;> rfl
  · rfl

/-- Nothing is done about an ingestion of which nothing is on the loop. -/
theorem Attends.unborn (attends : Attends cfg i l cause l') (unborn : Unborn i l) :
    Unborn i l' := by
  cases attends with
  | ticks live =>
    rw [← Loop.mem_pendingTicks, unborn.1] at live
    cases live
  | begins live => exact absurd ⟨_, live⟩ (unborn.2 _)
  | ends live => exact absurd ⟨_, live⟩ (unborn.2 _)
  | @disarms _ l₁ _ _ early late =>
    obtain ⟨unset, unread⟩ := early.unborn unborn
    refine late.unborn ⟨List.eq_nil_iff_forall_not_mem.mpr fun n pending => ?_, ?_⟩
    · have live := timers_disarm_subset l₁ i (Loop.mem_pendingTicks.mp pending)
      rw [← Loop.mem_pendingTicks, unset] at live
      cases live
    · rintro kind ⟨n, live⟩
      exact unread kind ⟨n, (isLive_disarm l₁ i _).symm.trans live⟩
  | spares _ spares => exact spares.unborn unborn

/-- As many ingestions are there as duties. -/
theorem lt_length_iff_of_duties (same : l'.duties = l.duties) (i : Nat) :
    i < l'.ingestions.length ↔ i < l.ingestions.length := by
  have length := congrArg List.length same
  rw [duties, duties, List.length_map, List.length_map] at length
  rw [length]

end Link

namespace Supervisor

variable {δ : Type} {s s' s'' : Supervisor δ} {cfg : Settings δ} {env : Surroundings} {i : Nat}
  {cause : Option TimerId} {task : TaskId} {point : Point} {f : Link δ → Link δ}

theorem Steered.onLink (steered : s.Steered) (f : Link δ → Link δ) : (s.onLink f).Steered :=
  ⟨steered.retry, steered.limit⟩

/-- An ingestion is left alone, or it is created and armed. -/
def Founds (cfg : Settings δ) (i : Nat) (s s' : Supervisor δ) : Prop :=
  s.Steered → s'.Steered ∧
    ((i < s'.ingestions.length ↔ i < s.ingestions.length) ∧ Link.Spares i s.toLink s'.toLink ∨
      Link.Creates cfg i s.toLink s'.toLink)

theorem Leaves.founds (leaves : Leaves s s') (cfg : Settings δ) (i : Nat) : Founds cfg i s s' := by
  intro steered
  obtain ⟨steered', same, spares⟩ := leaves steered
  exact ⟨steered', .inl ⟨by rw [same], spares i⟩⟩

namespace Founds

theorem before (second : Founds cfg i s' s'') (first : Leaves s s') : Founds cfg i s s'' := by
  intro steered
  obtain ⟨steered', same, spares⟩ := first steered
  obtain ⟨steered'', ⟨known, spares'⟩ | ⟨new, mode, session, generation, handles, l, founds⟩⟩ :=
    second steered'
  · rw [same] at known
    exact ⟨steered'', .inl ⟨known, (spares i).trans spares'⟩⟩
  · rw [same] at new
    exact ⟨steered'', .inr ⟨new, mode, session, generation, handles, l, founds.1,
      (spares i).trans founds.2.1, founds.2.2⟩⟩

theorem after (first : Founds cfg i s s') (second : Leaves s' s'') : Founds cfg i s s'' := by
  intro steered
  obtain ⟨steered', ⟨known, spares⟩ | ⟨new, mode, session, generation, handles, l, founds⟩⟩ :=
    first steered
  · obtain ⟨steered'', same, spares'⟩ := second steered'
    rw [← same] at known
    exact ⟨steered'', .inl ⟨known, spares.trans (spares' i)⟩⟩
  · obtain ⟨steered'', same, spares'⟩ := second steered'
    exact ⟨steered'', .inr ⟨new, mode, session, generation, handles, l, founds.1, founds.2.1,
      founds.2.2.1, founds.2.2.2.trans (spares' i)⟩⟩

/-- A connection becomes ready with an ingestion of its own. -/
theorem becomeReady {mode : Link.Mode δ} (known : cfg.mode = .ok mode) (i : Nat)
    (s : Supervisor δ) (env : Surroundings) (session : Nat) (handles : Gatt.HandleMap) :
    Founds cfg i s (s.becomeReady cfg env session mode handles) := by
  intro steered
  let j := s.ingestions.length
  let g := Link.Ingestion.create mode session s.machine.generation handles
  let created : Supervisor δ :=
    { s.onLink fun l => { l with ingestions := l.ingestions ++ [g] } with ingestion := some j }
  have renewed (t : Supervisor δ) : Leaves t { t with failures := 0 } := .of_same rfl rfl rfl
  have online (t : Supervisor δ) :
      Leaves t (t.onLink fun l => { l with store := l.store.setConnected true }) :=
    .onLink t rfl fun _ => .of_same rfl rfl
  have told : Leaves (created.onLink (·.arm cfg j))
      (s.becomeReady cfg env session mode handles) :=
    ((((Leaves.transition _ cfg .ready none).trans (online _)).trans (renewed _)).trans
      (.say _ cfg _ _)).trans (.tellReady _ cfg env)
  have unarmed : Link.Spares i s.toLink created.toLink := .create i s.toLink g
  obtain ⟨steered', same, spares⟩ := told ⟨steered.retry, steered.limit⟩
  refine ⟨steered', ?_⟩
  by_cases new : i = j
  · subst new
    exact .inr ⟨rfl, mode, session, s.machine.generation, handles, created.toLink, known, unarmed,
      List.getElem?_concat_length, spares j⟩
  · refine .inl ⟨?_, (unarmed.trans (.arm (Ne.symm new) _ cfg)).trans (spares i)⟩
    have armed := congrArg List.length (created.toLink.arm_arms cfg j).duties
    have length : (created.toLink.arm cfg j).ingestions.length = j + 1 := by
      simpa [Link.duties, created, Supervisor.onLink, j] using armed
    rw [same]
    change i < (created.toLink.arm cfg j).ingestions.length ↔ i < j
    omega

theorem setUp (i : Nat) (s : Supervisor δ) (cfg : Settings δ) (env : Surroundings)
    (session : Nat) (tree : Gatt.Tree) : Founds cfg i s (s.setUp cfg env session tree).1 := by
  have untimed := Leaves.cancelDiscoveryTimer s
  have mapped (t : Supervisor δ) (handles : Gatt.HandleMap) :
      Leaves t { t with handleMap := some handles } := .of_same rfl rfl rfl
  unfold Supervisor.setUp
  dsimp only
  split
  · exact untimed.founds cfg i
  · rename_i t listed
    have noted := (untimed.trans (.listTree listed)).trans
      (.records t cfg (Gatt.resolve tree).records)
    split
    · exact noted.founds cfg i
    · rename_i handles _
      have shown := (noted.trans (mapped _ handles)).trans (.showHandles _ cfg handles)
      split
      · exact shown.founds cfg i
      · exact (becomeReady ‹_› i _ env session handles).before shown

theorem resumeDiscovering (i : Nat) (s : Supervisor δ) (cfg : Settings δ) (env : Surroundings)
    (n generation session : Nat) (reading : Except Failure (Option Gatt.Tree)) :
    Founds cfg i s (s.resumeDiscovering cfg env n generation session reading) := by
  unfold Supervisor.resumeDiscovering
  split
  · refine Leaves.founds (.trans ?_ (.finish _ _ rfl)) cfg i
    split
    · exact .say s cfg _ _
    · exact .complain s cfg _ _
  · split
    · exact (setUp i s cfg env session _).after (.finish _ _ rfl)
    · exact (Leaves.finish s _ rfl).founds cfg i

end Founds

/-- What a callback of the supervisor does about a polling ingestion. -/
structure Treats (cfg : Settings δ) (i : Nat) (cause : Option TimerId) (s s' : Supervisor δ) :
    Prop where
  steered : s'.Steered
  deals : (i < s'.ingestions.length ↔ i < s.ingestions.length) ∧
      Attends cfg i s.toLink cause s'.toLink ∨
    cause = none ∧ Link.Creates cfg i s.toLink s'.toLink

namespace Treats

theorem of_yields (yields : Yields i s s') (steered : s.Steered) (owned : s.toLink.Owned)
    (other : ∀ n, cause ≠ some (.tick i n)) : Treats cfg i cause s s' := by
  obtain ⟨steered', length, spares | ⟨l, early, late⟩⟩ := yields steered owned
  · exact ⟨steered', .inl ⟨by rw [length], .spares other spares⟩⟩
  · exact ⟨steered', .inl ⟨by rw [length], .disarms other early late⟩⟩

theorem of_founds (founds : Founds cfg i s s') (steered : s.Steered) :
    Treats cfg i none s s' := by
  obtain ⟨steered', ⟨known, spares⟩ | creates⟩ := founds steered
  · exact ⟨steered', .inl ⟨known, .spares (by simp) spares⟩⟩
  · exact ⟨steered', .inr ⟨rfl, creates⟩⟩

/-- The work of an ingestion is passed on. -/
theorem onLink (steered : s.Steered) (duties : (f s.toLink).duties = s.duties)
    (attends : Attends cfg i s.toLink cause (f s.toLink)) : Treats cfg i cause s (s.onLink f) :=
  ⟨steered.onLink f, .inl ⟨Link.lt_length_iff_of_duties duties i, attends⟩⟩

end Treats

/-- The timer whose callback an event is, if it is live. -/
def liveTimer (s : Supervisor δ) (event : Event) : Option TimerId :=
  event.timer.filter (· ∈ s.loop.timers)

theorem treats_expired (steered : s.Steered) (owned : s.toLink.Owned) (cfg : Settings δ)
    (env : Surroundings) (i : Nat) (timer : TimerId) :
    Treats cfg i (s.liveTimer (.expired timer)) s (s.step cfg env (.expired timer)) := by
  by_cases live : timer ∈ s.loop.timers
  · have cause : s.liveTimer (.expired timer) = some timer := by simp [liveTimer, Event.timer, live]
    rw [cause, step, if_pos live]
    have off (steers : timer.steers = true) : Leaves s (s.onLink (·.onLoop (·.expire timer))) :=
      .onLink s rfl fun i => .expire s.toLink (TimerId.tick?_eq_none steers i)
    cases timer with
    | retry r =>
      exact .of_yields (((off rfl).trans (.beginAttempt _)).yields i) steered owned (by simp)
    | discovery n generation =>
      exact .of_yields (((off rfl).trans (.discoveryExpired _ cfg n generation)).yields i) steered
        owned (by simp)
    | tick j n =>
      refine .onLink (s := s) (f := fun l => (l.onLoop (·.expire (.tick j n))).tick cfg j) steered
        (Link.tick_works _ cfg j).duties ?_
      by_cases own : j = i
      · subst own
        exact .ticks live
      · refine .spares (by simp [own]) ?_
        exact (Link.Spares.expire s.toLink (by simp [TimerId.tick?, own])).trans (.tick own _ cfg)
  · have cause : s.liveTimer (.expired timer) = none := by simp [liveTimer, Event.timer, live]
    rw [cause, step, if_neg live]
    exact .of_yields ((Leaves.refl s).yields i) steered owned (by simp)

theorem treats_begins (steered : s.Steered) (owned : s.toLink.Owned)
    (polls : ∀ g, s.ingestions[i]? = some g → ∃ p, g.strategy = .poll p) (cfg : Settings δ)
    (env : Surroundings) (task : TaskId) :
    Treats cfg i none s (s.step cfg env (.begins task)) := by
  have yields {s' : Supervisor δ} (yields : Yields i s s') : Treats cfg i none s s' :=
    .of_yields yields steered owned (by simp)
  cases here : s.loop.point? task with
  | none =>
    simp only [step, here]
    exact yields ((Leaves.refl s).yields i)
  | some point =>
    rw [step_begins here]
    unfold handleBegin
    split
    · exact yields ((Leaves.startAttempt s cfg env _).yields i)
    · exact yields (.startForced i s cfg env _ _ _)
    · exact yields (.startShutdown i s cfg env _)
    · exact .onLink steered (Link.beginSubscription_works ..).duties
        (.spares (by simp) (.beginSubscription polls cfg _ _ _ _ _))
    · rename_i j kind tick session handle
      refine .onLink steered (Link.beginRead_works ..).duties ?_
      by_cases own : j = i
      · subst own
        exact .begins (by rw [Link.Loop.isLive, here]; rfl)
      · exact .spares (by simp) (.beginRead own _ cfg env kind tick session handle)
    · exact yields ((Leaves.refl s).yields i)

theorem treats_resumed (steered : s.Steered) (owned : s.toLink.Owned)
    (polls : ∀ g, s.ingestions[i]? = some g → ∃ p, g.strategy = .poll p) (cfg : Settings δ)
    (env : Surroundings) (task : TaskId) (ending : Ending) :
    Treats cfg i none s (s.step cfg env (.resumed task ending)) := by
  have yields {s' : Supervisor δ} (yields : Yields i s s') : Treats cfg i none s s' :=
    .of_yields yields steered owned (by simp)
  have leaves {s' : Supervisor δ} (leaves : Leaves s s') : Treats cfg i none s s' :=
    yields (leaves.yields i)
  have read {j : Nat} {kind : Sensor.Kind} {tick : Nat} {point : Point}
      (here : s.loop.point? (.read j kind tick) = some point) (handle : Option Int)
      (ending : Ending) : Treats cfg i none s
        (s.onLink (·.resumeRead cfg env j kind tick handle ending)) := by
    refine .onLink steered (Link.resumeRead_works ..).duties ?_
    by_cases own : j = i
    · subst own
      exact .ends (by rw [Link.Loop.isLive, here]; rfl)
    · exact .spares (by simp) (.resumeRead own _ cfg env kind tick handle ending)
  cases here : s.loop.point? task with
  | none =>
    simp only [step, here]
    exact leaves (.refl s)
  | some point =>
    rw [step_resumed here]
    unfold handleResume
    split
    · exact leaves (.resumeConnecting s cfg env _ _ _ ending)
    · exact leaves (.resumePairing s cfg env _ _ _ ending)
    · exact leaves (.resumeDiscarding s cfg _ _ ending)
    · exact yields (.resumeForced i s cfg env _ _ ending)
    · exact yields (.resumeShutdown i s cfg env _ ending)
    · exact .onLink steered (Link.resumeSubscription_works ..).duties
        (.spares (by simp) (.resumeSubscription polls cfg _ _ _ _ ending))
    · exact read here _ ending
    · exact .onLink steered (Link.resumeSubscription_works ..).duties
        (.spares (by simp) (.resumeSubscription polls cfg _ _ _ _ .cancelled))
    · exact read here _ .cancelled
    · rename_i subscribed read
      refine leaves (.finish s _ ?_)
      cases task with
      | attempt | forcedDisconnect | shutdown => rfl
      | subscription j kind round => exact (subscribed j kind round rfl).elim
      | read j kind tick => exact (read j kind tick rfl).elim
    · split
      · exact leaves (.finish s _ rfl)
      · exact leaves (.refl s)
    · exact leaves (.refl s)

/-- **Every callback attends to a polling ingestion**, or creates it. -/
theorem treats_step (steered : s.Steered) (owned : s.toLink.Owned)
    (polls : ∀ g, s.ingestions[i]? = some g → ∃ p, g.strategy = .poll p) {event : Event}
    (lawful : Lawful env event) (cfg : Settings δ) :
    Treats cfg i (s.liveTimer event) s (s.step cfg env event) := by
  have yields {s' : Supervisor δ} (yields : Yields i s s') : Treats cfg i none s s' :=
    .of_yields yields steered owned (by simp)
  cases event with
  | expired timer => exact treats_expired steered owned cfg env i timer
  | begins task => exact treats_begins steered owned polls cfg env task
  | resumed task ending => exact treats_resumed steered owned polls cfg env task ending
  | treeRead task reading =>
    simp only [step]
    split
    · exact .of_founds (.resumeDiscovering i s cfg env _ _ _ reading) steered
    · exact .of_founds ((Leaves.refl s).founds cfg i) steered
  | linkLost generation =>
    exact yields ((Yields.connectionLost i s cfg env generation).after (.report (.refl _)))
  | notified j handle payload =>
    rw [step_notified]
    have works := Link.notified_works s.toLink cfg j handle payload lawful.calm
    exact .onLink steered works.report.duties
      (.spares (by simp [liveTimer, Event.timer])
        (Link.Spares.notified i j s.toLink cfg env handle payload).report)
  | started => exact yields ((Leaves.start s cfg).yields i)
  | shutdownAsked => exact yields ((Leaves.requestShutdown s).yields i)
  | transitionAsked target => exact yields ((Leaves.transition s cfg target none).yields i)

/-- A callback of a run as a polling ingestion sees it. -/
def Stamped.callback (m : Stamped δ) (cfg : Settings δ) : Callback δ :=
  ⟨m.time, m.before.liveTimer m.event, m.before.toLink, (m.after cfg).toLink⟩

/-- Seen from an ingestion, a callback follows another as it does in the run. -/
theorem Stamped.follows_callback [Zero δ] [Add δ] [LE δ] {earlier later : Stamped δ}
    (follows : (earlier.beat cfg).Follows (later.beat cfg)) :
    (earlier.callback cfg).beat.Follows (later.callback cfg).beat where
  ordered := follows.ordered
  notEarly timer wait sets off live := by
    have off : later.event.timer = some timer := (Option.filter_eq_some_iff.mp off).1
    exact follows.notEarly timer wait ⟨sets.absent, sets.live, sets.written⟩ off live
  notLate timer wait sets live :=
    follows.notLate timer wait ⟨sets.absent, sets.live, sets.written⟩ live
  atOnce task point spawns here start :=
    follows.atOnce task point ⟨spawns.absent, spawns.live⟩ here start

variable {interval : δ} {past : List (Stamped δ)}

/-- Nothing belongs to an ingestion until it is created, and from then on the callbacks of the run
are a history of it. -/
def Follows (cfg : Settings δ) (i : Nat) (interval : δ) (past : List (Stamped δ))
    (s : Supervisor δ) : Prop :=
  s.ingestions.length ≤ i ∧ Link.Unborn i s.toLink ∨
    ∃ before m later a, past = before ++ m :: later ∧ m.before.ingestions.length = i ∧
      a.interval = interval ∧ Polls cfg i a ((m :: later).map (·.callback cfg)) s.toLink

theorem Follows.polls (follows : Follows cfg i interval past s) {g : Link.Ingestion δ}
    (found : s.ingestions[i]? = some g) : ∃ p, g.strategy = .poll p := by
  rcases follows with ⟨beyond, -⟩ | ⟨before, m, later, a, -, -, -, polls⟩
  · rw [List.getElem?_eq_none beyond] at found
    cases found
  · obtain ⟨g', p, found', polls⟩ := polls.found
    exact ⟨p, Option.some.inj (found.symm.trans found') ▸ polls⟩

theorem Follows.concat (polling : cfg.mode = .ok (.poll interval)) {m : Stamped δ}
    (follows : Follows cfg i interval past m.before)
    (treats : Treats cfg i (m.before.liveTimer m.event) m.before (m.after cfg)) :
    Follows cfg i interval (past ++ [m]) (m.after cfg) := by
  rcases treats.deals with ⟨known, attends⟩ | ⟨idle, new, mode, session, generation, handles, l,
    chosen, early, created, late⟩
  · rcases follows with ⟨beyond, unborn⟩ | ⟨before, m', later, a, rfl, first, same, polls⟩
    · exact .inl ⟨not_lt.mp (known.not.mpr (not_lt.mpr beyond)), attends.unborn unborn⟩
    · refine .inr ⟨before, m', later ++ [m], a, by simp, first, same, ?_⟩
      rw [← List.cons_append, List.map_append]
      exact polls.attends (m.callback cfg) attends
  · rcases follows with ⟨-, unset, unread⟩ | ⟨before, m', later, a, -, -, -, polls⟩
    · obtain rfl : mode = .poll interval := Except.ok.inj (chosen.symm.trans polling)
      refine .inr ⟨past, m, [], ⟨interval, session, generation, handles⟩, rfl, new.symm, rfl, ?_⟩
      have still (n : Nat) : (m.callback cfg).timer ≠ some (.tick i n) := by
        simp [Stamped.callback, idle]
      exact .arms (m.callback cfg) still unset unread early created late
    · obtain ⟨g, p, found, -⟩ := polls.found
      rw [List.getElem?_eq_none (by rw [new])] at found
      cases found

/-- Whatever happens, the timers that the supervisor keeps for itself steer the connection, and a
polling ingestion is followed from its creation on. -/
theorem Run.follows (polling : cfg.mode = .ok (.poll interval)) (run : Run cfg (untimed past) s) :
    s.Steered ∧ ∀ i, Follows cfg i interval past s := by
  induction past using List.reverseRecOn generalizing s with
  | nil =>
    obtain rfl := run.of_nil
    exact ⟨⟨nofun, nofun⟩, fun i => .inl ⟨Nat.zero_le i, rfl, fun kind ⟨n, live⟩ => nomatch live⟩⟩
  | append_singleton past m ih =>
    rw [untimed_concat] at run
    obtain ⟨earlier, lawful, same⟩ := run.of_concat
    obtain ⟨steered, follows⟩ := ih earlier
    have treats (i : Nat) := treats_step steered earlier.owned
      (fun g found => (follows i).polls found) lawful cfg
    rw [same]
    exact ⟨(treats 0).steered, fun i => (follows i).concat polling (treats i)⟩

/-- **A run is a history of each of its ingestions.** If the supervisor polls, then the callbacks
from the one that created an ingestion on are a history of it, and one in which the callbacks
come in their time if they do so in the run. -/
theorem Run.polls [Zero δ] [Add δ] [LE δ] (polling : cfg.mode = .ok (.poll interval))
    (run : Run cfg (untimed past) s) (known : i < s.ingestions.length) :
    ∃ before m later a, past = before ++ m :: later ∧ m.before.ingestions.length = i ∧
      a.interval = interval ∧ Polls cfg i a ((m :: later).map (·.callback cfg)) s.toLink ∧
      (Punctual (past.map (·.beat cfg)) →
        Punctual (((m :: later).map (·.callback cfg)).map Callback.beat)) := by
  rcases (run.follows polling).2 i with ⟨beyond, -⟩ | ⟨before, m, later, a, rfl, polls⟩
  · exact absurd known (not_lt.mpr beyond)
  · refine ⟨before, m, later, a, rfl, polls.1, polls.2.1, polls.2.2, fun punctual => ?_⟩
    rw [List.map_append] at punctual
    have later := (List.pairwise_append.mp punctual).2.1
    rw [Punctual, List.pairwise_map, List.pairwise_map]
    exact (List.pairwise_map.mp later).imp Stamped.follows_callback

end Supervisor

end SensorLink
