/-
# Links that differ in one kind

Two links are alike but for a kind if nothing but reports and the work for that
kind tells them apart: its reading in the store, its tasks and its acts on the
loop, its subscriptions that have not completed and its read in flight.  The
malformed payloads are counted together for all kinds, but the count is told in
reports only.

What happens to both links keeps them alike but for the kind.  What is done for the
kind itself may be done on one side alone, and the lemmas that say so are named
after it: `Own` ends the name where the second link changes and the first does not.
-/

import SensorLink.Proofs.Ingestion.Likeness
import SensorLink.Proofs.Loop.Isolation

namespace SensorLink

namespace Link

open Sensor (Kind)

variable {δ : Type}

/-- Nothing but the subscriptions of a kind tells two states apart. -/
structure Subscriptions.AlikeBut (kind : Kind) (s s' : Subscriptions) : Prop where
  pending : s'.pending.filter (·.kind? != some kind) = s.pending.filter (·.kind? != some kind)
  rounds : s'.rounds = s.rounds

/-- The read of a kind that is in flight is a task of the kind. -/
def Polling.Owns (kind : Kind) (p : Polling δ) : Prop :=
  ∀ task, p.inFlight.get kind = some task → task.kind? = some kind

/-- Nothing but the read of a kind tells two states apart. -/
structure Polling.AlikeBut (kind : Kind) (p p' : Polling δ) : Prop where
  interval : p'.interval = p.interval
  timer : p'.timer = p.timer
  ticks : p'.ticks = p.ticks
  scheduled : p'.scheduled = p.scheduled
  others : ∀ other, other ≠ kind → p'.inFlight.get other = p.inFlight.get other
  owns : p.Owns kind
  owns' : p'.Owns kind

/-- Nothing but the work for a kind tells two ways of ingestion apart. -/
inductive Strategy.AlikeBut (kind : Kind) : Strategy δ → Strategy δ → Prop where
  | notify {s s' : Subscriptions} : s.AlikeBut kind s' → AlikeBut kind (.notify s) (.notify s')
  | poll {p p' : Polling δ} : p.AlikeBut kind p' → AlikeBut kind (.poll p) (.poll p')

/-- Nothing but the work for a kind and the count of malformed payloads tells two ingestions
apart. -/
structure Ingestion.AlikeBut (kind : Kind) (g g' : Ingestion δ) : Prop where
  session : g'.session = g.session
  generation : g'.generation = g.generation
  handles : g'.handles = g.handles
  armed : g'.armed = g.armed
  strategy : g.strategy.AlikeBut kind g'.strategy

/-- Nothing but reports, counts of malformed payloads and the work for a kind tells two links
apart. -/
structure AlikeBut (kind : Kind) (l l' : Link δ) : Prop where
  machine : l'.machine = l.machine
  connected : l'.store.connected = l.store.connected
  readings : ∀ other, other ≠ kind → l'.store.read other = l.store.read other
  sessions : l'.sessions = l.sessions
  length : l'.ingestions.length = l.ingestions.length
  ingestions : ∀ (i : Nat) (g g' : Ingestion δ), l.ingestions[i]? = some g →
    l'.ingestions[i]? = some g' → g.AlikeBut kind g'
  loop : l.loop.AlikeBut kind l'.loop

namespace Polling.AlikeBut

variable {kind : Kind} {p p' p'' : Polling δ}

theorem symm (alike : p.AlikeBut kind p') : p'.AlikeBut kind p where
  interval := alike.interval.symm
  timer := alike.timer.symm
  ticks := alike.ticks.symm
  scheduled := alike.scheduled.symm
  others other different := (alike.others other different).symm
  owns := alike.owns'
  owns' := alike.owns

theorem trans (first : p.AlikeBut kind p') (second : p'.AlikeBut kind p'') :
    p.AlikeBut kind p'' where
  interval := second.interval.trans first.interval
  timer := second.timer.trans first.timer
  ticks := second.ticks.trans first.ticks
  scheduled := second.scheduled.trans first.scheduled
  others other different := (second.others other different).trans (first.others other different)
  owns := first.owns
  owns' := second.owns'

/-- Another kind's read is put in flight, or is in flight no more. -/
theorem set (alike : p.AlikeBut kind p') {other : Kind} (different : other ≠ kind)
    (read : Option TaskId) :
    AlikeBut kind { p with inFlight := p.inFlight.set other read }
      { p' with inFlight := p'.inFlight.set other read } where
  interval := alike.interval
  timer := alike.timer
  ticks := alike.ticks
  scheduled := alike.scheduled
  others third apart := by
    dsimp only
    rw [Sensor.PerKind.get_set, Sensor.PerKind.get_set, alike.others third apart]
  owns task here := by
    dsimp only at here
    rw [Sensor.PerKind.get_set_of_ne _ _ different.symm] at here
    exact alike.owns task here
  owns' task here := by
    dsimp only at here
    rw [Sensor.PerKind.get_set_of_ne _ _ different.symm] at here
    exact alike.owns' task here

/-- The kind's own read is put in flight, or is in flight no more, on one side. -/
theorem setOwn (alike : p.AlikeBut kind p') {read : Option TaskId}
    (own : ∀ task, read = some task → task.kind? = some kind) :
    p.AlikeBut kind { p' with inFlight := p'.inFlight.set kind read } where
  interval := alike.interval
  timer := alike.timer
  ticks := alike.ticks
  scheduled := alike.scheduled
  others other different := by
    dsimp only
    rw [Sensor.PerKind.get_set_of_ne _ _ different, alike.others other different]
  owns := alike.owns
  owns' task here := by
    dsimp only at here
    rw [Sensor.PerKind.get_set_self] at here
    exact own task here

/-- The timer has gone off on both sides. -/
theorem rung (alike : p.AlikeBut kind p') :
    AlikeBut kind { p with timer := none } { p' with timer := none } :=
  { alike with timer := rfl }

/-- A tick is counted on both sides. -/
theorem counted (alike : p.AlikeBut kind p') :
    AlikeBut kind { p with ticks := p.ticks + 1 } { p' with ticks := p'.ticks + 1 } :=
  { alike with ticks := congrArg (· + 1) alike.ticks }

/-- The same tasks are in flight for the other kinds. -/
theorem inFlight (alike : p.AlikeBut kind p') :
    (Kind.all.filterMap p'.inFlight.get).filter (·.kind? != some kind) =
      (Kind.all.filterMap p.inFlight.get).filter (·.kind? != some kind) := by
  have absent {p : Polling δ} (owns : p.Owns kind) :
      (p.inFlight.get kind).filter (·.kind? != some kind) = none := by
    rw [Option.filter_eq_none_iff]
    intro task here
    simp [owns task here]
  rw [List.filter_filterMap, List.filter_filterMap]
  apply List.filterMap_congr
  intro other _
  by_cases same : other = kind
  · rw [same, absent alike.owns, absent alike.owns']
  · rw [alike.others other same]

end Polling.AlikeBut

namespace Strategy.AlikeBut

variable {kind : Kind} {a b c : Strategy δ}

theorem symm (alike : a.AlikeBut kind b) : b.AlikeBut kind a := by
  cases alike with
  | notify same => exact .notify ⟨same.pending.symm, same.rounds.symm⟩
  | poll same => exact .poll same.symm

theorem trans (first : a.AlikeBut kind b) (second : b.AlikeBut kind c) : a.AlikeBut kind c := by
  cases first with
  | notify same =>
    cases second with
    | notify same' =>
      exact .notify ⟨same'.pending.trans same.pending, same'.rounds.trans same.rounds⟩
  | poll same =>
    cases second with
    | poll same' => exact .poll (same.trans same')

/-- Ways that are alike are the same way. -/
theorem ways (alike : a.AlikeBut kind b) :
    (∃ s s', a = .notify s ∧ b = .notify s' ∧ s.AlikeBut kind s') ∨
      ∃ p p', a = .poll p ∧ b = .poll p' ∧ p.AlikeBut kind p' := by
  cases alike with
  | notify same => exact .inl ⟨_, _, rfl, rfl, same⟩
  | poll same => exact .inr ⟨_, _, rfl, rfl, same⟩

end Strategy.AlikeBut

namespace Ingestion.AlikeBut

variable {kind : Kind} {g g' g'' : Ingestion δ}

theorem symm (alike : g.AlikeBut kind g') : g'.AlikeBut kind g where
  session := alike.session.symm
  generation := alike.generation.symm
  handles := alike.handles.symm
  armed := alike.armed.symm
  strategy := alike.strategy.symm

theorem trans (first : g.AlikeBut kind g') (second : g'.AlikeBut kind g'') :
    g.AlikeBut kind g'' where
  session := second.session.trans first.session
  generation := second.generation.trans first.generation
  handles := second.handles.trans first.handles
  armed := second.armed.trans first.armed
  strategy := first.strategy.trans second.strategy

/-- An ingestion that was just created is alike to itself. -/
theorem create (kind : Kind) (mode : Mode δ) (session generation : Nat)
    (handles : Gatt.HandleMap) :
    (Ingestion.create mode session generation handles).AlikeBut kind
      (.create mode session generation handles) where
  session := rfl
  generation := rfl
  handles := rfl
  armed := rfl
  strategy := by
    cases mode with
    | notify => exact .notify ⟨rfl, rfl⟩
    | poll interval =>
      have idle : Polling.Owns kind (⟨interval, none, .const none, 0, 0⟩ : Polling δ) := by
        intro task here
        cases kind <;> cases here
      exact .poll ⟨rfl, rfl, rfl, rfl, fun _ _ => rfl, idle, idle⟩

theorem onPolling (alike : g.AlikeBut kind g') {f f' : Polling δ → Polling δ}
    (keeps : ∀ {p p' : Polling δ}, p.AlikeBut kind p' → (f p).AlikeBut kind (f' p')) :
    (g.onPolling f).AlikeBut kind (g'.onPolling f') := by
  unfold Ingestion.onPolling
  obtain ⟨s, s', here, there, same⟩ | ⟨p, p', here, there, same⟩ := alike.strategy.ways
  · rw [here, there]
    exact alike
  · rw [here, there]
    exact ⟨alike.session, alike.generation, alike.handles, alike.armed, .poll (keeps same)⟩

theorem onPollingOwn (alike : g.AlikeBut kind g') {f : Polling δ → Polling δ}
    (own : ∀ {p p' : Polling δ}, p.AlikeBut kind p' → p.AlikeBut kind (f p')) :
    g.AlikeBut kind (g'.onPolling f) := by
  unfold Ingestion.onPolling
  obtain ⟨s, s', here, there, same⟩ | ⟨p, p', here, there, same⟩ := alike.strategy.ways
  · rw [there]
    exact alike
  · rw [there]
    refine ⟨alike.session, alike.generation, alike.handles, alike.armed, ?_⟩
    rw [here]
    exact .poll (own same)

theorem settleSubscription (alike : g.AlikeBut kind g') (task : TaskId) :
    (g.settleSubscription task).AlikeBut kind (g'.settleSubscription task) := by
  unfold Ingestion.settleSubscription
  obtain ⟨s, s', here, there, same⟩ | ⟨p, p', here, there, same⟩ := alike.strategy.ways
  · rw [here, there]
    refine ⟨alike.session, alike.generation, alike.handles, alike.armed, .notify ⟨?_, same.rounds⟩⟩
    dsimp only
    rw [List.filter_filter, List.filter_filter]
    simp only [Bool.and_comm]
    rw [← List.filter_filter, ← List.filter_filter, same.pending]
  · rw [here, there]
    exact alike

theorem settleSubscriptionOwn (alike : g.AlikeBut kind g') {task : TaskId}
    (own : task.kind? = some kind) : g.AlikeBut kind (g'.settleSubscription task) := by
  unfold Ingestion.settleSubscription
  obtain ⟨s, s', here, there, same⟩ | ⟨p, p', here, there, same⟩ := alike.strategy.ways
  · rw [there]
    refine ⟨alike.session, alike.generation, alike.handles, alike.armed, ?_⟩
    rw [here]
    refine .notify ⟨?_, same.rounds⟩
    dsimp only
    rw [List.filter_filter, ← same.pending]
    apply List.filter_congr
    intro other _
    by_cases gone : other = task
    · simp [gone, own]
    · simp [gone]
  · rw [there]
    exact alike

theorem settleRead (alike : g.AlikeBut kind g') {other : Kind} (different : other ≠ kind)
    (task : TaskId) : (g.settleRead other task).AlikeBut kind (g'.settleRead other task) := by
  apply alike.onPolling
  intro p p' same
  rw [same.others other different]
  split
  · exact same.set different none
  · exact same

theorem settleReadOwn (alike : g.AlikeBut kind g') (task : TaskId) :
    g.AlikeBut kind (g'.settleRead kind task) := by
  apply alike.onPollingOwn
  intro p p' same
  split
  · exact same.setOwn nofun
  · exact same

theorem disarmed (alike : g.AlikeBut kind g') : g.disarmed.AlikeBut kind g'.disarmed := by
  refine ⟨alike.session, alike.generation, rfl, rfl, ?_⟩
  unfold Ingestion.disarmed
  dsimp only
  obtain ⟨s, s', here, there, same⟩ | ⟨p, p', here, there, same⟩ := alike.strategy.ways
  · rw [here, there]
    exact .notify ⟨rfl, same.rounds⟩
  · rw [here, there]
    have idle {p : Polling δ} :
        Polling.Owns kind { p with timer := none, inFlight := .const none } := by
      intro task here
      cases kind <;> cases here
    exact .poll ⟨same.interval, rfl, same.ticks, same.scheduled, fun _ _ => rfl, idle, idle⟩

/-- The same tasks are waited for, but for those of the kind. -/
theorem pendingTasks (alike : g.AlikeBut kind g') :
    g'.pendingTasks.filter (·.kind? != some kind) =
      g.pendingTasks.filter (·.kind? != some kind) := by
  unfold Ingestion.pendingTasks
  obtain ⟨s, s', here, there, same⟩ | ⟨p, p', here, there, same⟩ := alike.strategy.ways
  · rw [here, there]
    exact same.pending
  · rw [here, there]
    exact same.inFlight

end Ingestion.AlikeBut

namespace AlikeBut

variable {kind : Kind} {l l' l'' : Link δ}

/-- An ingestion is on neither side or on both. -/
theorem ingestion (alike : l.AlikeBut kind l') (i : Nat) :
    (l.ingestions[i]? = none ∧ l'.ingestions[i]? = none) ∨
      ∃ g g', l.ingestions[i]? = some g ∧ l'.ingestions[i]? = some g' ∧ g.AlikeBut kind g' := by
  cases here : l.ingestions[i]? with
  | none =>
    rw [List.getElem?_eq_none_iff, ← alike.length, ← List.getElem?_eq_none_iff] at here
    exact .inl ⟨rfl, here⟩
  | some g =>
    have bound := (List.getElem?_eq_some_iff.mp here).1
    rw [← alike.length] at bound
    have there := List.getElem?_eq_getElem bound
    exact .inr ⟨g, _, rfl, there, alike.ingestions i g _ here there⟩

theorem symm (alike : l.AlikeBut kind l') : l'.AlikeBut kind l where
  machine := alike.machine.symm
  connected := alike.connected.symm
  readings other different := (alike.readings other different).symm
  sessions := alike.sessions.symm
  length := alike.length.symm
  ingestions i g g' here there := (alike.ingestions i g' g there here).symm
  loop := alike.loop.symm

theorem trans (first : l.AlikeBut kind l') (second : l'.AlikeBut kind l'') :
    l.AlikeBut kind l'' where
  machine := second.machine.trans first.machine
  connected := second.connected.trans first.connected
  readings other different :=
    (second.readings other different).trans (first.readings other different)
  sessions := second.sessions.trans first.sessions
  length := second.length.trans first.length
  ingestions i g g' here there := by
    obtain ⟨absent, -⟩ | ⟨f, f', before, between, same⟩ := first.ingestion i
    · rw [here] at absent
      cases absent
    · rw [here] at before
      cases before
      exact same.trans (second.ingestions i f' g' between there)
  loop := first.loop.trans second.loop

/-- What may be done on one side alone may be done on both, on each for itself. -/
theorem both (alike : l.AlikeBut kind l') {f f' : Link δ → Link δ}
    (own : ∀ {m m' : Link δ}, m.AlikeBut kind m' → m.AlikeBut kind (f m'))
    (own' : ∀ {m m' : Link δ}, m.AlikeBut kind m' → m.AlikeBut kind (f' m')) :
    (f l).AlikeBut kind (f' l') := by
  have there := own' alike
  exact (own there.symm).symm

/-- Reports on either side. -/
theorem reported {m m' : Link δ} (alike : l.AlikeBut kind l') (here : l.Alike m)
    (there : l'.Alike m') : m.AlikeBut kind m' := by
  obtain ⟨loop, told, rfl⟩ := here
  obtain ⟨loop', told', rfl⟩ := there
  have before := (Loop.AlikeBut.of_alike told kind).symm.trans alike.loop
  exact { alike with loop := before.trans (.of_alike told' kind) }

/-- Records of any text and any level on both sides. -/
theorem record (alike : l.AlikeBut kind l') (cfg cfg' : Settings δ) (r r' : Journal.Record) :
    (l.record cfg r).AlikeBut kind (l'.record cfg' r') :=
  alike.reported (.recorded l cfg r) (.recorded l' cfg' r')

theorem note (alike : l.AlikeBut kind l') (cfg cfg' : Settings δ) (level : Journal.Level)
    (text : String) : (l.note cfg level text).AlikeBut kind (l'.note cfg' level text) :=
  alike.record cfg cfg' _ _

theorem noteHandle (alike : l.AlikeBut kind l') (cfg cfg' : Settings δ) (level : Journal.Level)
    (before : String) (handle : Option Int) (after : String) :
    (l.noteHandle cfg level before handle after).AlikeBut kind
      (l'.noteHandle cfg' level before handle after) := by
  cases handle with
  | none => exact alike
  | some handle => exact alike.note cfg cfg' level _

/-- A record on one side. -/
theorem recordOwn (alike : l.AlikeBut kind l') (cfg : Settings δ) (r : Journal.Record) :
    l.AlikeBut kind (l'.record cfg r) :=
  alike.reported (.refl l) (.recorded l' cfg r)

theorem noteOwn (alike : l.AlikeBut kind l') (cfg : Settings δ) (level : Journal.Level)
    (text : String) : l.AlikeBut kind (l'.note cfg level text) :=
  alike.recordOwn cfg _

theorem noteHandleOwn (alike : l.AlikeBut kind l') (cfg : Settings δ) (level : Journal.Level)
    (before : String) (handle : Option Int) (after : String) :
    l.AlikeBut kind (l'.noteHandle cfg level before handle after) := by
  cases handle with
  | none => exact alike
  | some handle => exact alike.noteOwn cfg level _

/-- Different operations of the loop that keep loops alike. -/
theorem onLoop (alike : l.AlikeBut kind l') {f f' : Loop δ → Loop δ}
    (keeps : ∀ {loop loop' : Loop δ}, loop.AlikeBut kind loop' →
      (f loop).AlikeBut kind (f' loop')) :
    (l.onLoop f).AlikeBut kind (l'.onLoop f') :=
  { alike with loop := keeps alike.loop }

/-- An operation on the loop of one side. -/
theorem onLoopOwn (alike : l.AlikeBut kind l') {f : Loop δ → Loop δ}
    (own : ∀ loop : Loop δ, loop.AlikeBut kind (f loop)) : l.AlikeBut kind (l'.onLoop f) :=
  { alike with loop := alike.loop.trans (own l'.loop) }

theorem onIngestion (alike : l.AlikeBut kind l') (i : Nat) {f f' : Ingestion δ → Ingestion δ}
    (keeps : ∀ {g g' : Ingestion δ}, g.AlikeBut kind g' → (f g).AlikeBut kind (f' g')) :
    (l.onIngestion i f).AlikeBut kind (l'.onIngestion i f') where
  machine := alike.machine
  connected := alike.connected
  readings := alike.readings
  sessions := alike.sessions
  length := by
    rw [Link.onIngestion, Link.onIngestion, List.length_modify, List.length_modify, alike.length]
  ingestions j g g' here there := by
    unfold Link.onIngestion at here there
    dsimp only at here there
    rw [List.getElem?_modify] at here there
    obtain ⟨h, before, rfl⟩ := Option.map_eq_some_iff.mp here
    obtain ⟨h', before', rfl⟩ := Option.map_eq_some_iff.mp there
    have same := alike.ingestions j h h' before before'
    by_cases hit : i = j
    · simp only [hit, if_true]
      exact keeps same
    · simp only [hit, if_false]
      exact same
  loop := alike.loop

/-- A change of an ingestion on one side. -/
theorem onIngestionOwn (alike : l.AlikeBut kind l') (i : Nat) {f : Ingestion δ → Ingestion δ}
    (own : ∀ {g g' : Ingestion δ}, g.AlikeBut kind g' → g.AlikeBut kind (f g')) :
    l.AlikeBut kind (l'.onIngestion i f) := by
  have both := alike.onIngestion i (f := id) own
  rwa [Link.onIngestion, List.modify_id] at both

/-- Something that happens once for every item of a list. -/
theorem foldl {α : Type} {f f' : Link δ → α → Link δ}
    (keeps : ∀ {l l' : Link δ} (a : α), l.AlikeBut kind l' → (f l a).AlikeBut kind (f' l' a))
    (as : List α) (alike : l.AlikeBut kind l') :
    (as.foldl f l).AlikeBut kind (as.foldl f' l') := by
  induction as generalizing l l' with
  | nil => exact alike
  | cons a rest ih => exact ih (keeps a alike)

theorem isReleased (alike : l.AlikeBut kind l') (session : Nat) :
    l'.isReleased session = l.isReleased session := by
  rw [Link.isReleased, alike.sessions, ← Link.isReleased]

theorem isStale (alike : l.AlikeBut kind l') {g g' : Ingestion δ} (same : g.AlikeBut kind g') :
    l'.isStale g' = l.isStale g := by
  rw [Link.isStale, Link.isStale, alike.machine, same.armed, same.generation]

theorem request (alike : l.AlikeBut kind l') (task : TaskId) (session : Nat) (call : Gatt.Call)
    (point : Point) :
    (l.request task session call point).AlikeBut kind (l'.request task session call point) :=
  alike.onLoop fun same => (same.suspend task point).emit _

theorem requestOwn (alike : l.AlikeBut kind l') {task : TaskId} (session : Nat) (call : Gatt.Call)
    (point : Point) (own : task.kind? = some kind) :
    l.AlikeBut kind (l'.request task session call point) :=
  alike.onLoopOwn fun loop => (Loop.AlikeBut.suspendOwn loop point own).trans
    (.emitOwn (e := .request task session call) _ own)

end AlikeBut

end Link

end SensorLink
