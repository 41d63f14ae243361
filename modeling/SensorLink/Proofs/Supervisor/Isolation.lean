/-
# Kinds are isolated from each other

The kinds of a connection share a timer, a table of reads in flight, a set of
subscriptions, a count of malformed payloads and a store.  What befalls one kind is
nevertheless nobody else's business: its subscription may succeed, fail or hang, its
reads may return anything, fail in any way or never end, and its payloads may be too
short.

Two runs are compared that meet the same world elsewhere.  The world elsewhere
decides which callback runs next that is not about the kind, when, and in which
surroundings, and goes by all that it has seen: the callbacks before, their times,
and all acts of the supervisor but those about the kind.  In between, anything may
befall the kind.  What the world elsewhere sees is the same in both runs.
-/

import SensorLink.Proofs.Ingestion.Isolation.Callbacks
import SensorLink.Proofs.Supervisor.Congruence
import SensorLink.Proofs.Supervisor.Run

namespace SensorLink

open Gatt (Ending)
open Link (Effect Settings Surroundings TaskId)
open Sensor (Kind)

namespace Supervisor

variable {δ : Type} {cfg : Settings δ} {kind : Kind} {s s' : Supervisor δ}

/-- The kind that an event is about: that of a task, or the one that the tree gives the handle of a
notification.  A notification whose look-up takes the state machine down is about the connection. -/
def subject? (s : Supervisor δ) (env : Surroundings) : Event → Option Kind
  | .begins task | .resumed task _ => task.kind?
  | .notified i handle _ => s.ingestions[i]?.bind fun g =>
      if (env.lookup g.session handle).supersedes then none
      else s.kindAt env g.session handle
  | _ => none

/-- An event befalls a kind, if it is about the kind. -/
def suffer (s : Supervisor δ) (cfg : Settings δ) (kind : Kind) (env : Surroundings)
    (event : Event) : Supervisor δ :=
  if s.subject? env event = some kind then s.step cfg env event else s

/-- An event happens elsewhere, if it is not about the kind. -/
def meet (s : Supervisor δ) (cfg : Settings δ) (kind : Kind) (env : Surroundings)
    (event : Event) : Supervisor δ :=
  if s.subject? env event = some kind then s else s.step cfg env event

/-- Several events befall a kind. -/
def sufferAll (s : Supervisor δ) (cfg : Settings δ) (kind : Kind)
    (events : List (Surroundings × Event)) : Supervisor δ :=
  events.foldl (fun s e => s.suffer cfg kind e.1 e.2) s

namespace Over

open Link (AlikeBut)

theorem symm (linked : Over (AlikeBut kind) s s') : Over (AlikeBut kind) s' s := by
  obtain ⟨l, alike, rfl⟩ := linked
  exact ⟨s.toLink, alike.symm, rfl⟩

/-- Something that happens to the link of one side. -/
theorem onLinkOwn (linked : Over (AlikeBut kind) s s') {f : Link δ → Link δ}
    (own : ∀ {l l' : Link δ}, l.AlikeBut kind l' → l.AlikeBut kind (f l')) :
    Over (AlikeBut kind) s (s'.onLink f) :=
  linked.onLink (f := id) own

/-- The same is at issue on both sides. -/
theorem subject?_eq (linked : Over (AlikeBut kind) s s') (env : Surroundings) (event : Event) :
    s'.subject? env event = s.subject? env event := by
  obtain ⟨l, alike, rfl⟩ := linked
  cases event with
  | notified i handle payload =>
    unfold subject?
    dsimp only
    obtain ⟨here, there⟩ | ⟨g, g', here, there, same⟩ := alike.ingestion i
    · rw [here, there]
      rfl
    · rw [here, there, Option.bind_some, Option.bind_some, same.session, Link.kindAt,
        alike.isReleased, ← Link.kindAt]
  | begins | resumed | expired | treeRead | linkLost | started | shutdownAsked
  | transitionAsked => rfl

/-- An event about the kind, on one side. -/
theorem stepOwn (linked : Over (AlikeBut kind) s s') (cfg : Settings δ) {env : Surroundings}
    {event : Event} (own : s'.subject? env event = some kind) :
    Over (AlikeBut kind) s (s'.step cfg env event) := by
  cases event with
  | begins task =>
    unfold Supervisor.step
    dsimp only
    split
    · unfold Supervisor.handleBegin
      split
      · cases own
      · cases own
      · cases own
      · cases own
        exact linked.onLinkOwn (·.beginSubscriptionOwn cfg _ _ _ _)
      · cases own
        exact linked.onLinkOwn (·.beginReadOwn cfg _ _ _ _)
      · exact linked
    · exact linked
  | resumed task ending =>
    unfold Supervisor.step
    dsimp only
    split
    · unfold Supervisor.handleResume
      split
      · cases own
      · cases own
      · cases own
      · cases own
      · cases own
      · cases own
        exact linked.onLinkOwn (·.resumeSubscriptionOwn cfg _ _ _ _)
      · cases own
        exact linked.onLinkOwn (·.resumeReadOwn cfg _ _ _ _)
      · cases own
        exact linked.onLinkOwn (·.resumeSubscriptionOwn cfg _ _ _ _)
      · cases own
        exact linked.onLinkOwn (·.resumeReadOwn cfg _ _ _ _)
      · exact linked.onLinkOwn (·.onLoopOwn (.finishOwn · _ own))
      · split
        · exact linked.onLinkOwn (·.onLoopOwn (.finishOwn · _ own))
        · exact linked
      · exact linked
    · exact linked
  | notified i handle payload =>
    unfold subject? at own
    dsimp only at own
    obtain ⟨g, here, own⟩ := Option.bind_eq_some_iff.mp own
    split at own
    · cases own
    · rename_i calm
      obtain ⟨l, alike, rfl⟩ := linked
      have heard : Over (AlikeBut kind) s
          { s with toLink := (l.notified cfg env i handle payload).1 } :=
        ⟨_, alike.notifiedOwn cfg here (by simpa using calm) own payload, rfl⟩
      exact heard.reported (.refl s) (.reported (_, _))
  | expired | treeRead | linkLost | started | shutdownAsked | transitionAsked => cases own

theorem sufferOwn (linked : Over (AlikeBut kind) s s') (cfg : Settings δ) (env : Surroundings)
    (event : Event) : Over (AlikeBut kind) s (s'.suffer cfg kind env event) := by
  unfold suffer
  split
  · exact linked.stepOwn cfg ‹_›
  · exact linked

theorem sufferAllOwn (linked : Over (AlikeBut kind) s s') (cfg : Settings δ)
    (events : List (Surroundings × Event)) :
    Over (AlikeBut kind) s (s'.sufferAll cfg kind events) := by
  unfold sufferAll
  induction events generalizing s' with
  | nil => exact linked
  | cons e rest ih => exact ih (linked.sufferOwn cfg e.1 e.2)

/-- Whatever befalls the kind on either side. -/
theorem sufferAll (linked : Over (AlikeBut kind) s s') (cfg : Settings δ)
    (events events' : List (Surroundings × Event)) :
    Over (AlikeBut kind) (s.sufferAll cfg kind events) (s'.sufferAll cfg kind events') :=
  ((linked.sufferAllOwn cfg events').symm.sufferAllOwn cfg events).symm

/-- What is brought to an ingestion for another kind, on both sides. -/
theorem innerOther (linked : Over (AlikeBut kind) s s') (cfg : Settings δ)
    (threshold : Journal.Level) {env : Surroundings} (agrees : env.Agrees env) {event : Event}
    (other : s.subject? env event ≠ some kind) (inner : event.isInner = true) :
    Over (AlikeBut kind) (s.step cfg env event)
      (s'.step (cfg.keeping threshold) env event) := by
  cases event with
  | begins task =>
    obtain ⟨third, known⟩ :=
      TaskId.exists_kind?_of_not_steers (by simpa [Event.isInner] using inner)
    have different : third ≠ kind := fun same => other (same ▸ known)
    exact linked.begins cfg threshold known (AlikeBut.works cfg threshold different)
      (linked.link.loop.point? other)
  | resumed task ending =>
    obtain ⟨third, known⟩ :=
      TaskId.exists_kind?_of_not_steers (by simpa [Event.isInner] using inner)
    have different : third ≠ kind := fun same => other (same ▸ known)
    exact linked.resumed cfg threshold known (AlikeBut.works cfg threshold different) ending
      (linked.link.loop.point? other)
  | notified i handle payload =>
    have heard := linked.onLink (·.notified agrees cfg (cfg.keeping threshold) i handle payload)
    exact report heard
  | expired | treeRead | linkLost | started | shutdownAsked | transitionAsked => cases inner

/-- An event that is not about the kind, on both sides. -/
theorem stepOther (linked : Over (AlikeBut kind) s s') (cfg : Settings δ) {env : Surroundings}
    {event : Event} (other : s.subject? env event ≠ some kind) :
    Over (AlikeBut kind) (s.step cfg env event) (s'.step cfg env event) := by
  have agrees : env.Agrees env := ⟨rfl, rfl, rfl⟩
  have same : cfg.keeping cfg.threshold = cfg := rfl
  have stays := linked.step cfg cfg.threshold agrees event
    (linked.innerOther cfg cfg.threshold agrees other)
    fun tree _ => congrArg (Settings.reads · tree) same
  rwa [same] at stays

theorem meet (linked : Over (AlikeBut kind) s s') (cfg : Settings δ) (env : Surroundings)
    (event : Event) :
    Over (AlikeBut kind) (s.meet cfg kind env event) (s'.meet cfg kind env event) := by
  unfold Supervisor.meet
  rw [linked.subject?_eq]
  split
  · exact linked
  · exact linked.stepOther cfg ‹_›

end Over

end Supervisor

/-- A callback as it is seen from elsewhere: when it ran, what it handled, and the acts on the tape
after it that are not about the kind. -/
structure Sight (τ δ : Type) where
  time : τ
  event : Event
  acts : List (Effect δ)

/-- The world elsewhere: what comes next, when, and in which surroundings, given what was seen so
far. -/
def Elsewhere (τ δ : Type) : Type :=
  List (Sight τ δ) → τ × Surroundings × Event

/-- What befalls a kind before a callback elsewhere, and after all that went before. -/
abbrev Fate : Type :=
  Nat → List (Surroundings × Event)

namespace Elsewhere

variable {τ δ : Type}

/-- What is seen of a number of callbacks, and the supervisor after them, if a fate befalls the
kind meanwhile. -/
def drive (w : Elsewhere τ δ) (cfg : Settings δ) (kind : Kind) (fate : Fate) :
    Nat → List (Sight τ δ) × Supervisor δ
  | 0 => ([], Supervisor.fresh.sufferAll cfg kind (fate 0))
  | n + 1 =>
    let before := w.drive cfg kind fate n
    let next := w before.1
    let s := before.2.meet cfg kind next.2.1 next.2.2
    (before.1 ++ [⟨next.1, next.2.2, s.loop.actsBut kind⟩], s.sufferAll cfg kind (fate (n + 1)))

/-- The same is seen elsewhere, and the supervisors stay alike, whatever befalls the kind. -/
theorem drive_alike (w : Elsewhere τ δ) (cfg : Settings δ) (kind : Kind) (fate fate' : Fate)
    (n : Nat) : (w.drive cfg kind fate' n).1 = (w.drive cfg kind fate n).1 ∧
      Supervisor.Over (Link.AlikeBut kind) (w.drive cfg kind fate n).2
        (w.drive cfg kind fate' n).2 := by
  induction n with
  | zero =>
    have fresh : Supervisor.Over (Link.AlikeBut kind) (.fresh : Supervisor δ) .fresh := by
      refine ⟨.fresh, ⟨rfl, rfl, fun _ _ => rfl, rfl, rfl, ?_, .refl kind _⟩, rfl⟩
      intro i g g' here
      cases here
    exact ⟨rfl, fresh.sufferAll cfg _ _⟩
  | succ n ih =>
    obtain ⟨seen, linked⟩ := ih
    unfold drive
    dsimp only
    rw [seen]
    generalize w (w.drive cfg kind fate n).1 = next
    have met := linked.meet cfg next.2.1 next.2.2
    rw [met.link.loop.acts]
    exact ⟨rfl, met.sufferAll cfg _ _⟩

/-- **Kinds are isolated.** Whatever befalls one kind, the world elsewhere sees the same callbacks
at the same times, among them the ticks of polling, and after each of them the same acts that are
not about the kind: the same reads are issued and the same subscriptions made for the other kinds,
and the listener is called for the same readings of theirs.  The state machine, the connectivity,
the readings of the other kinds and the timers are the same too; a fate may stop after any event,
so they are the same after every one. -/
theorem kinds_isolated (w : Elsewhere τ δ) (cfg : Settings δ) (kind : Kind) (fate fate' : Fate)
    (n : Nat) :
    (w.drive cfg kind fate' n).1 = (w.drive cfg kind fate n).1 ∧
      let s := (w.drive cfg kind fate n).2
      let s' := (w.drive cfg kind fate' n).2
      s'.machine = s.machine ∧ s'.store.connected = s.store.connected ∧
        (∀ other, other ≠ kind → s'.store.read other = s.store.read other) ∧
        s'.loop.timers = s.loop.timers ∧ s'.loop.actsBut kind = s.loop.actsBut kind := by
  obtain ⟨seen, linked⟩ := w.drive_alike cfg kind fate fate' n
  have alike := linked.link
  exact ⟨seen, alike.machine, alike.connected, alike.readings, alike.loop.timers, alike.loop.acts⟩

/-- A first connection, with one callback in every unit of time. -/
def firstConnection : Elsewhere Nat Nat :=
  fun seen =>
    (seen.length, Supervisor.plainWorld, Supervisor.firstConnection.getD seen.length .started)

/-- A temperature that is notified after the fifth callback reaches the store. -/
example :
    let fate : Fate := fun n =>
      if n = 5 then [(Supervisor.plainWorld, .notified 0 (some 1) [0x34, 0x08])] else []
    let observed (fate : Fate) := ((firstConnection.drive Supervisor.plainSettings .temperature
      fate 5).2.store.read .temperature).observed
    observed fate = true ∧ observed (fun _ => []) = false := by
  decide +kernel

end Elsewhere

end SensorLink
