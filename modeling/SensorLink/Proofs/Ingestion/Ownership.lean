/-
# What belongs to an ingestion

An ingestion waits for tasks of its own, and for the timer of its own next tick.  So
disarming it leaves everything else on the loop as it is: no attempt is cancelled, and
no timer of a retry or of a discovery is taken back.
-/

import SensorLink.Proofs.Ingestion.Congruence
import SensorLink.Proofs.Ingestion.Work

namespace SensorLink

namespace Link

open Gatt (Ending HandleMap)
open Sensor (Kind)

variable {δ : Type}

/-- A polling state of ingestion `i` holds timers and reads of that ingestion only. -/
structure Polling.Owned (i : Nat) (p : Polling δ) : Prop where
  timer : ∀ timer, p.timer = some timer → ∃ n, timer = .tick i n
  inFlight : ∀ kind task, p.inFlight.get kind = some task → ∃ n, task = .read i kind n

/-- Ingestion `i` waits for its own timer and for its own tasks only. -/
def Ingestion.Owned (i : Nat) (g : Ingestion δ) : Prop :=
  match g.strategy with
  | .notify s => ∀ task ∈ s.pending, ∃ kind round, task = .subscription i kind round
  | .poll p => p.Owned i

/-- Every ingestion waits for what is its own. -/
def Owned (l : Link δ) : Prop :=
  ∀ (i : Nat) (g : Ingestion δ), l.ingestions[i]? = some g → g.Owned i

variable {l l' : Link δ} {i : Nat} {g : Ingestion δ} {p : Polling δ}

namespace Polling.Owned

/-- Another read is entered under its kind. -/
theorem setRead (owned : p.Owned i) {kind : Kind} {read : Option TaskId}
    (own : ∀ task, read = some task → ∃ n, task = .read i kind n) :
    ({ p with inFlight := p.inFlight.set kind read } : Polling δ).Owned i where
  timer := owned.timer
  inFlight other task here := by
    rw [Sensor.PerKind.get_set] at here
    split at here
    · rename_i same
      exact same ▸ own task here
    · exact owned.inFlight other task here

end Polling.Owned

namespace Ingestion.Owned

theorem of_strategy {g' : Ingestion δ} (owned : g.Owned i) (same : g'.strategy = g.strategy) :
    g'.Owned i := by
  unfold Ingestion.Owned at owned ⊢
  rw [same]
  exact owned

theorem of_poll (polls : g.strategy = .poll p) : g.Owned i ↔ p.Owned i := by
  rw [Ingestion.Owned, polls]

theorem onPolling (owned : g.Owned i) {f : Polling δ → Polling δ}
    (keeps : ∀ p, p.Owned i → (f p).Owned i) : (g.onPolling f).Owned i := by
  unfold Ingestion.onPolling
  cases polls : g.strategy with
  | notify s => exact owned
  | poll p => exact (of_poll rfl).mpr (keeps p ((of_poll polls).mp owned))

theorem settleRead (owned : g.Owned i) (kind : Kind) (task : TaskId) :
    (g.settleRead kind task).Owned i := by
  apply owned.onPolling
  intro p own
  split
  · exact own.setRead nofun
  · exact own

theorem settleSubscription (owned : g.Owned i) (task : TaskId) :
    (g.settleSubscription task).Owned i := by
  unfold Ingestion.settleSubscription
  cases notified : g.strategy with
  | notify s =>
    unfold Ingestion.Owned at owned ⊢
    rw [notified] at owned
    exact fun other mem => owned other (List.mem_of_mem_filter mem)
  | poll p => exact owned

/-- An ingestion that was disarmed waits for nothing. -/
theorem disarmed (g : Ingestion δ) (i : Nat) : g.disarmed.Owned i := by
  unfold Ingestion.Owned Ingestion.disarmed
  cases g.strategy with
  | notify s => exact List.forall_mem_nil _
  | poll p => exact ⟨nofun, fun kind task here => by simp at here⟩

theorem create (mode : Mode δ) (session generation : Nat) (handles : HandleMap) :
    (Ingestion.create mode session generation handles).Owned i := by
  cases mode with
  | notify => exact List.forall_mem_nil _
  | poll interval => exact ⟨nofun, fun kind task here => by simp at here⟩

end Ingestion.Owned

namespace Owned

theorem of_ingestions (owned : l.Owned) (same : l'.ingestions = l.ingestions) : l'.Owned := by
  unfold Owned
  rw [same]
  exact owned

theorem alike (owned : l.Owned) (alike : l.Alike l') : l'.Owned :=
  owned.of_ingestions alike.ingestions

theorem record (owned : l.Owned) (cfg : Settings δ) (r : Journal.Record) :
    (l.record cfg r).Owned :=
  owned.alike (.recorded l cfg r)

theorem note (owned : l.Owned) (cfg : Settings δ) (level : Journal.Level) (text : String) :
    (l.note cfg level text).Owned :=
  owned.record cfg _

theorem noteHandle (owned : l.Owned) (cfg : Settings δ) (level : Journal.Level) (before : String)
    (handle : Option Int) (after : String) :
    (l.noteHandle cfg level before handle after).Owned := by
  cases handle with
  | none => exact owned
  | some handle => exact owned.note cfg level _

theorem onLoop (owned : l.Owned) (f : Loop δ → Loop δ) : (l.onLoop f).Owned :=
  owned.of_ingestions rfl

/-- An ingestion changes and waits for its own things still. -/
theorem onIngestion (owned : l.Owned) {f : Ingestion δ → Ingestion δ}
    (keeps : ∀ g, l.ingestions[i]? = some g → g.Owned i → (f g).Owned i) :
    (l.onIngestion i f).Owned := by
  intro j g here
  rw [Link.onIngestion, List.getElem?_modify] at here
  obtain ⟨g', there, changed⟩ := Option.map_eq_some_iff.mp here
  split at changed
  · rename_i same
    subst same changed
    exact keeps g' there (owned i g' there)
  · exact changed ▸ owned j g' there

theorem onPolling (owned : l.Owned) {f : Polling δ → Polling δ}
    (keeps : ∀ p, p.Owned i → (f p).Owned i) :
    (l.onIngestion i (Ingestion.onPolling f)).Owned :=
  owned.onIngestion fun _ _ own => own.onPolling keeps

theorem foldl {α : Type} {f : Link δ → α → Link δ} (items : List α) (owned : l.Owned)
    (keeps : ∀ l a, Owned l → Owned (f l a)) : (items.foldl f l).Owned := by
  induction items generalizing l with
  | nil => exact owned
  | cons a rest ih => exact ih (keeps l a owned)

theorem scheduleTick (owned : l.Owned) (i : Nat) (wait : Wait δ) :
    (l.scheduleTick i wait).Owned := by
  unfold Link.scheduleTick
  split
  · rename_i p found
    have before : p.Owned i := owned i _ found
    apply onLoop
    refine owned.onIngestion fun g _ _ => ?_
    refine (Ingestion.Owned.of_poll (p := { p with
      timer := some (.tick i p.scheduled), scheduled := p.scheduled + 1 }) rfl).mpr ?_
    refine ⟨?_, before.inFlight⟩
    rintro _ ⟨⟩
    exact ⟨_, rfl⟩
  · exact owned

/-- A new ingestion waits for nothing. -/
theorem create (owned : l.Owned) (mode : Mode δ) (session generation : Nat) (handles : HandleMap) :
    ({ l with ingestions := l.ingestions ++ [.create mode session generation handles] } :
      Link δ).Owned := by
  intro i g here
  rw [List.getElem?_append] at here
  split at here
  · exact owned i g here
  · obtain rfl := List.mem_singleton.mp (List.mem_of_getElem? here)
    exact .create mode session generation handles

theorem arm (owned : l.Owned) (cfg : Settings δ) (i : Nat) : (l.arm cfg i).Owned := by
  unfold Link.arm
  split
  · rename_i g found
    split
    · rename_i s notified
      unfold armSubscriptions
      refine foldl _ (owned.onIngestion fun g' _ _ => ?_) fun l e own => ?_
      rotate_left
      · exact (own.noteHandle cfg .info _ _ _).onLoop _
      have before := owned i g found
      unfold Ingestion.Owned at before ⊢
      rw [notified] at before
      intro task mem
      rcases List.mem_append.mp mem with old | new
      · exact before task old
      · obtain ⟨e, -, rfl⟩ := List.mem_map.mp new
        exact ⟨_, _, rfl⟩
    · have armed : (l.onIngestion i fun g => { g with armed := true }).Owned :=
        owned.onIngestion fun g' _ own => own.of_strategy rfl
      exact armed.scheduleTick i .soon
  · exact owned

theorem disarm (owned : l.Owned) (i : Nat) : (l.disarm i).Owned := by
  obtain ⟨loop, -, disarmed⟩ := l.disarm_eq i
  rw [disarmed]
  exact (owned.onIngestion fun g _ _ => .disarmed g i).onLoop fun _ => loop

theorem pollEntry (owned : l.Owned) (cfg : Settings δ) (i session tick : Nat) (p : Polling δ)
    (e : Gatt.Entry) : (l.pollEntry cfg i session tick p e).Owned := by
  unfold Link.pollEntry
  split
  · exact owned.note cfg _ _
  · refine (owned.onLoop _).onPolling fun p own => own.setRead ?_
    rintro _ ⟨⟩
    exact ⟨_, rfl⟩

theorem tick (owned : l.Owned) (cfg : Settings δ) (i : Nat) : (l.tick cfg i).Owned := by
  unfold Link.tick
  split
  · split
    · have untimed := owned.onPolling (i := i) (f := fun p => { p with timer := none })
        fun p own => ⟨nofun, own.inFlight⟩
      dsimp only
      split
      · have counted := untimed.onPolling (i := i) (f := fun p => { p with ticks := p.ticks + 1 })
          fun p own => ⟨own.timer, own.inFlight⟩
        refine scheduleTick ?_ i _
        unfold pollOnce
        split
        · exact foldl _ counted fun l e own => own.pollEntry cfg i _ _ _ e
        · exact counted.note cfg _ _
      · exact untimed
    · exact owned
  · exact owned

theorem ingest (owned : l.Owned) (cfg : Settings δ) (env : Surroundings) (i : Nat) (kind : Kind)
    (payload : List UInt8) : (l.ingest cfg env i kind payload).1.Owned := by
  unfold Link.ingest
  split
  · unfold dropMalformed
    refine onIngestion ?_ fun g _ own => own.of_strategy rfl
    split
    · exact (owned.note cfg _ _).note cfg _ _
    · exact owned.note cfg _ _
  · have counted := owned.onIngestion (i := i) (f := Ingestion.forgetMalformed)
      fun g _ own => own.of_strategy rfl
    dsimp only
    split
    · have stored (store : Store) :
          ({ l.onIngestion i Ingestion.forgetMalformed with store } : Link δ).Owned :=
        counted.of_ingestions rfl
      exact ((stored _).note cfg .info _).onLoop _
    · exact counted.note cfg _ _

theorem completeRead (owned : l.Owned) (cfg : Settings δ) (env : Surroundings) (i : Nat)
    (task : TaskId) (kind : Kind) (result : Option (Except Failure (List UInt8))) :
    (l.completeRead cfg env i task kind result).1.Owned := by
  have settled : (l.onIngestion i (Ingestion.settleRead kind task)).Owned :=
    owned.onIngestion fun g _ own => own.settleRead kind task
  unfold Link.completeRead
  dsimp only
  split
  · exact settled
  · split
    · exact settled
    · split
      · exact settled.note cfg _ _
      · split
        · split
          · exact settled.note cfg _ _
          · exact settled.record cfg _
        · exact settled.ingest cfg env i kind _

theorem completeSubscription (owned : l.Owned) (cfg : Settings δ) (i : Nat) (task : TaskId)
    (kind : Kind) (handle : Option Int) (result : Option (Except Failure (List UInt8))) :
    (l.completeSubscription cfg i task kind handle result).Owned := by
  have settled : (l.onIngestion i (Ingestion.settleSubscription task)).Owned :=
    owned.onIngestion fun g _ own => own.settleSubscription task
  unfold Link.completeSubscription
  dsimp only
  split
  · exact settled
  · exact settled.note cfg _ _
  · split
    · exact settled.noteHandle cfg _ _ _ _
    · exact settled.record cfg _

theorem report {outcome : Link δ × Option Failure} (owned : outcome.1.Owned) :
    (report outcome).Owned :=
  owned.alike (.reported outcome)

theorem notified (owned : l.Owned) (cfg : Settings δ) (env : Surroundings) (i : Nat)
    (handle : Option Int) (payload : List UInt8) :
    (l.notified cfg env i handle payload).1.Owned := by
  have searched (session : Nat) : (l.lookUp cfg env session handle).1.Owned := by
    unfold Link.lookUp
    split
    · exact owned
    · dsimp only
      split
      · exact of_ingestions (owned.record cfg _) rfl
      · exact owned
  unfold Link.notified
  split
  · exact owned
  · rename_i g _
    split
    · exact owned.noteHandle cfg _ _ _ _
    · have found := searched g.session
      split
      · rename_i here
        rw [here] at found
        exact found.noteHandle cfg _ _ _ _
      · rename_i here
        rw [here] at found
        split
        · exact found
        · split
          · exact found
          · exact found.ingest cfg env i _ payload

end Owned

/-- Two links that differ in reports alone, and on which ingestions wait for what is their own. -/
def AlikeOwned (l l' : Link δ) : Prop :=
  l.Owned ∧ l.Alike l'

instance : Congruence (AlikeOwned : Link δ → Link δ → Prop) where
  machine same := Congruence.machine same.2
  sessions same := Congruence.sessions same.2
  length same := Congruence.length same.2
  timers same := Congruence.timers same.2
  point? same := Congruence.point? same.2
  reported same here there := ⟨same.1.alike here, Congruence.reported same.2 here there⟩
  emit e same := ⟨same.1.onLoop _, same.2.emit e⟩
  suspend point same steers := ⟨same.1.onLoop _, Congruence.suspend point same.2 steers⟩
  finish how same steers := ⟨same.1.onLoop _, Congruence.finish how same.2 steers⟩
  cancel same steers := ⟨same.1.onLoop _, Congruence.cancel same.2 steers⟩
  schedule timer wait same := ⟨same.1.onLoop _, Congruence.schedule timer wait same.2⟩
  unschedule timer same := ⟨same.1.onLoop _, Congruence.unschedule timer same.2⟩
  expire timer same := ⟨same.1.onLoop _, Congruence.expire timer same.2⟩
  setMachine machine same := ⟨same.1.of_ingestions rfl, Congruence.setMachine machine same.2⟩
  setSessions sessions same := ⟨same.1.of_ingestions rfl, Congruence.setSessions sessions same.2⟩
  setConnected connected same :=
    ⟨same.1.of_ingestions rfl, Congruence.setConnected connected same.2⟩
  create mode session generation handles same :=
    ⟨same.1.create mode session generation handles,
      Congruence.create mode session generation handles same.2⟩
  arm cfg threshold i same := ⟨same.1.arm cfg i, same.2.arm cfg threshold i⟩
  disarm i same := ⟨same.1.disarm i, same.2.disarm i⟩
  tick cfg threshold i same := ⟨same.1.tick cfg i, same.2.tick cfg threshold i⟩

/-- The work of the ingestions leaves every one with what is its own. -/
theorem AlikeOwned.works (cfg : Settings δ) (threshold : Journal.Level) {env env' : Surroundings}
    (kind : Kind) : Congruence.Works AlikeOwned cfg threshold env env' kind where
  finish how same _ := ⟨same.1.onLoop _, same.2.onLoop (·.finish _ how)⟩
  beginSubscription i round session handle same := by
    refine ⟨?_, same.2.beginSubscription cfg threshold i kind round session handle⟩
    unfold Link.beginSubscription
    dsimp only
    split
    · exact (same.1.onLoop _).completeSubscription cfg i _ kind handle _
    · exact same.1.onLoop _
  resumeSubscription i round handle ending same :=
    ⟨(same.1.onLoop _).completeSubscription cfg i _ kind handle _,
      same.2.resumeSubscription cfg threshold i kind round handle ending⟩
  beginRead i tick session handle same := by
    refine ⟨?_, same.2.beginRead cfg threshold i kind tick session handle⟩
    unfold Link.beginRead
    dsimp only
    split
    · exact ((same.1.onLoop _).completeRead cfg env i _ kind _).report
    · exact same.1.onLoop _
  resumeRead i tick handle ending same :=
    ⟨((same.1.onLoop _).completeRead cfg env i _ kind _).report,
      same.2.resumeRead cfg threshold i kind tick handle ending⟩

namespace Loop.Keeps

/-- The cancellation of a task that works for an ingestion. -/
theorem cancel (l : Loop δ) {task : TaskId} (inner : task.steers = false) :
    l.Keeps [] (l.cancel task) where
  points other steers := by
    rw [point?_cancel, if_neg]
    rintro rfl
    simp [inner] at steers
  timers _ _ := by rw [timers_cancel]
  cancelled other steers := by
    rw [cancelled_cancel, or_iff_left]
    rintro ⟨rfl, -⟩
    simp [inner] at steers
  tape := (Wanes.cancel l task).tape
  notices := (Wanes.cancel l task).notices

theorem cancelAll {tasks : List TaskId} (inner : ∀ task ∈ tasks, task.steers = false)
    (l : Loop δ) : l.Keeps [] (tasks.foldl (fun l task => l.cancel task) l) := by
  induction tasks generalizing l with
  | nil => exact refl l
  | cons task rest ih =>
    rw [List.forall_mem_cons] at inner
    exact (cancel l inner.1).after (ih inner.2 (l.cancel task))

/-- The timer of a tick is taken back. -/
theorem unschedule (l : Loop δ) {timer : TimerId} (inner : timer.steers = false) :
    l.Keeps [] (l.unschedule timer) where
  points _ _ := rfl
  timers other steers := by
    rw [mem_timers_unschedule, and_iff_left]
    rintro rfl
    simp [inner] at steers
  cancelled _ _ := cancelled_emit (by simp)
  tape := (Wanes.unschedule l timer).tape
  notices := (Wanes.unschedule l timer).notices

end Loop.Keeps

/-- What an ingestion waits for works for it. -/
theorem Ingestion.Owned.pendingTasks (owned : g.Owned i) :
    ∀ task ∈ g.pendingTasks, task.steers = false := by
  unfold Ingestion.pendingTasks
  unfold Ingestion.Owned at owned
  split
  · rename_i s notified
    rw [notified] at owned
    intro task mem
    obtain ⟨kind, round, rfl⟩ := owned task mem
    rfl
  · rename_i p polls
    rw [polls] at owned
    intro task mem
    obtain ⟨kind, -, here⟩ := List.mem_filterMap.mp mem
    obtain ⟨n, rfl⟩ := owned.inFlight kind task here
    rfl

/-- Disarming an ingestion leaves what steers the connection as it is. -/
theorem Owned.disarm_eq (owned : l.Owned) (i : Nat) :
    ∃ loop, l.loop.Keeps [] loop ∧
      l.disarm i = { l with ingestions := l.ingestions.modify i Ingestion.disarmed, loop } := by
  cases found : l.ingestions[i]? with
  | none =>
    refine ⟨l.loop, .refl _, ?_⟩
    rw [Link.disarm, found, List.modify_eq_self (List.getElem?_eq_none_iff.mp found)]
  | some g =>
    have own := owned i g found
    simp only [Link.disarm, found, foldl_onLoop]
    split
    · rename_i interval timer inFlight ticks scheduled polls
      have untimed : timer.steers = false := by
        obtain ⟨n, rfl⟩ := ((Ingestion.Owned.of_poll polls).mp own).timer timer rfl
        rfl
      exact ⟨_, (Loop.Keeps.unschedule _ untimed).after (.cancelAll own.pendingTasks _), rfl⟩
    · exact ⟨_, .cancelAll own.pendingTasks _, rfl⟩

end Link

end SensorLink
