/-
# Runs of the supervisor

A run is a sequence of callbacks in any order, with any answers of the world.
`Lawful` says what a callback of a run is: nobody but the supervisor drives the
state machine.

A run keeps its past: what was processed, in which state and in which
surroundings.  `Obedient` is a condition on the past that nothing promises.  A
call may answer its cancellation with a failure, and a cancelled attempt that
fails after its successor was created takes the successor down.  The theorems
that depend on it have it as a hypothesis.
-/

import SensorLink.Proofs.Loop.Steering
import SensorLink.Supervisor.Step

namespace SensorLink

open Gatt (Ending)
open Link (Settings Surroundings)

/-- A call ends for its caller with a value, or with the cancellation. -/
def Gatt.Ending.succumbs : Ending → Bool
  | .returned _ | .cancelled => true
  | .raised _ | .timedOut => false

/-- An event that is lawful in calm surroundings. -/
def Event.isTame : Event → Bool
  | .transitionAsked _ => false
  | _ => true

/-- No call of an attempt fails with the event. -/
def Event.succumbs : Event → Bool
  | .resumed (.attempt _) ending => ending.succumbs
  | _ => true

namespace Supervisor

variable {δ : Type}

/-- Only the supervisor drives the state machine. -/
structure Lawful (env : Surroundings) (event : Event) : Prop where
  /-- Nobody else asks the state machine for a transition. -/
  unasked : ∀ target, event ≠ .transitionAsked target
  /-- Reading the attribute tree leaves the state machine alone. -/
  calm : ∀ session handle, (env.lookup session handle).supersedes = false

/-- A cancelled attempt that has a successor does not fail. -/
def Obedient (s : Supervisor δ) (event : Event) : Prop :=
  ∀ n ending, event = .resumed (.attempt n) ending → s.loop.Cancelled (.attempt n) →
    n + 1 < s.attempts → ending.succumbs = true

/-- A callback that is about to run. -/
structure Moment (δ : Type) where
  before : Supervisor δ
  env : Surroundings
  event : Event

/-- The state after a moment. -/
def Moment.after (m : Moment δ) (cfg : Settings δ) : Supervisor δ :=
  m.before.step cfg m.env m.event

/-- The attempts obey their cancellation at a moment. -/
def Moment.Obedient (m : Moment δ) : Prop :=
  m.before.Obedient m.event

/-- A supervisor reaches a state through the moments of its past, the latest last. -/
inductive Run (cfg : Settings δ) : List (Moment δ) → Supervisor δ → Prop where
  | fresh : Run cfg [] .fresh
  | step {past : List (Moment δ)} (m : Moment δ) :
    Run cfg past m.before → Lawful m.env m.event → Run cfg (past ++ [m]) (m.after cfg)

/-- Nothing has happened at first. -/
theorem Run.of_nil {cfg : Settings δ} {s : Supervisor δ} (run : Run cfg [] s) : s = .fresh := by
  generalize whole : ([] : List (Moment δ)) = past at run
  cases run with
  | fresh => rfl
  | step m run lawful => simp at whole

/-- The callback that a run came through last was lawful after those before it. -/
theorem Run.of_concat {cfg : Settings δ} {past : List (Moment δ)} {m : Moment δ} {s : Supervisor δ}
    (run : Run cfg (past ++ [m]) s) :
    Run cfg past m.before ∧ Lawful m.env m.event ∧ s = m.after cfg := by
  generalize whole : past ++ [m] = all at run
  cases run with
  | fresh => simp at whole
  | step m' run lawful =>
    obtain ⟨rfl, same⟩ := List.append_inj' whole rfl
    obtain rfl : m = m' := by simpa using same
    exact ⟨run, lawful, rfl⟩

/-- What holds at first, and is kept by every lawful callback after a run whose attempts obey, holds
after every run whose attempts obey. -/
@[elab_as_elim]
theorem Run.preserves {cfg : Settings δ} {P : List (Moment δ) → Supervisor δ → Prop}
    {past : List (Moment δ)} {s : Supervisor δ} (run : Run cfg past s)
    (obedient : ∀ m ∈ past, m.Obedient) (fresh : P [] .fresh)
    (step : ∀ {past : List (Moment δ)} (m : Moment δ), Run cfg past m.before →
      (∀ m' ∈ past, m'.Obedient) → Lawful m.env m.event → m.Obedient → P past m.before →
      P (past ++ [m]) (m.after cfg)) :
    P past s := by
  induction run with
  | fresh => exact fresh
  | step m run lawful ih =>
    rw [List.forall_mem_append, List.forall_mem_singleton] at obedient
    exact step m run obedient.1 lawful obedient.2 (ih obedient.1)

/-- The state after events that all meet the same surroundings. -/
def play (cfg : Settings δ) (env : Surroundings) (s : Supervisor δ) (events : List Event) :
    Supervisor δ :=
  events.foldl (fun s event => s.step cfg env event) s

/-- The moments of events that all meet the same surroundings. -/
def moments (cfg : Settings δ) (env : Surroundings) (s : Supervisor δ) :
    List Event → List (Moment δ)
  | [] => []
  | event :: rest => ⟨s, env, event⟩ :: moments cfg env (s.step cfg env event) rest

/-- A moment of a run by hand is about one of its events. -/
theorem event_mem_of_mem_moments {cfg : Settings δ} {env : Surroundings} {s : Supervisor δ}
    {events : List Event} {m : Moment δ} (mem : m ∈ moments cfg env s events) :
    m.event ∈ events := by
  induction events generalizing s with
  | nil => cases mem
  | cons event rest ih =>
    rcases List.mem_cons.mp mem with rfl | mem
    · exact List.mem_cons_self
    · exact List.mem_cons_of_mem _ (ih mem)

/-- A tame event is lawful in calm surroundings. -/
theorem Lawful.of_tame {env : Surroundings} {event : Event}
    (calm : ∀ session handle, (env.lookup session handle).supersedes = false)
    (tame : event.isTame = true) : Lawful env event := by
  refine ⟨?_, calm⟩
  rintro target rfl
  cases tame

/-- Where no attempt fails, every attempt obeys. -/
theorem Obedient.of_succumbs {event : Event} (succumbs : event.succumbs = true)
    (s : Supervisor δ) : s.Obedient event := by
  rintro n ending rfl - -
  exact succumbs

/-- In a run by hand in which no attempt fails, every attempt obeys. -/
theorem obedient_moments {cfg : Settings δ} {env : Surroundings} {s : Supervisor δ}
    {events : List Event} (succumb : events.all Event.succumbs = true) :
    ∀ m ∈ moments cfg env s events, m.Obedient :=
  fun m mem => .of_succumbs (List.all_eq_true.mp succumb _ (event_mem_of_mem_moments mem)) m.before

/-- Tame events in calm surroundings continue a run. -/
theorem Run.extend {cfg : Settings δ} {env : Surroundings} {events : List Event}
    {past : List (Moment δ)} {s : Supervisor δ} (run : Run cfg past s)
    (calm : ∀ session handle, (env.lookup session handle).supersedes = false)
    (tame : events.all Event.isTame = true) :
    Run cfg (past ++ moments cfg env s events) (s.play cfg env events) := by
  induction events generalizing past s with
  | nil => rwa [moments, List.append_nil]
  | cons event rest ih =>
    rw [List.all_cons, Bool.and_eq_true] at tame
    have continued := ih (run.step ⟨s, env, event⟩ (.of_tame calm tame.1)) tame.2
    rwa [List.append_assoc] at continued

/-- Tame events in calm surroundings make a run. -/
theorem run_play {cfg : Settings δ} {env : Surroundings} {events : List Event}
    (calm : ∀ session handle, (env.lookup session handle).supersedes = false)
    (tame : events.all Event.isTame = true) :
    Run cfg (moments cfg env .fresh events) (play cfg env .fresh events) := by
  have run := (Run.fresh : Run cfg [] .fresh).extend calm tame
  rwa [List.nil_append] at run

/-- Settings for runs by hand: the first attempt is made at once, the others after a while. -/
def plainSettings : Settings Nat where
  address := "AA"
  security := "low"
  modeName := "notify"
  mode := .ok .notify
  limits := ⟨some 20, some 10, some 10, some 5⟩
  discoveryLimit := none
  retryDelay _ := .ok 1
  atOnce := 0
  showDelay := toString
  threshold := .error

/-- Surroundings for runs by hand: every link is up, and every handle is a thermometer's. -/
def plainWorld : Surroundings where
  openClient := .ok ()
  link _ := .reported true
  lookup _ _ :=
    ⟨some ⟨some (.text (Sensor.Kind.uuid .temperature)), .absent, .absent, .absent⟩, false⟩
  readyFails := none
  lostFails := none
  readingFails := none

/-- The events of a first connection, to a peripheral that offers no service. -/
def firstConnection : List Event :=
  [.started, .expired (.retry 0), .begins (.attempt 0), .resumed (.attempt 0) (.returned []),
    .treeRead (.attempt 0) (.ok (some []))]

/-- After a reading the first connection is lost, and a second one delivers a reading again. -/
def secondConnection : List Event :=
  firstConnection ++ [.notified 0 (some 1) [0x34, 0x08], .linkLost 1, .expired (.retry 1),
    .begins (.attempt 1), .resumed (.attempt 1) (.returned []),
    .treeRead (.attempt 1) (.ok (some [])), .notified 1 (some 1) [0x66, 0x08]]

/-- The events of a first connection, to a peripheral with a tree. -/
def connectionTo (tree : Gatt.Tree) : List Event :=
  [.started, .expired (.retry 0), .begins (.attempt 0), .resumed (.attempt 0) (.returned []),
    .treeRead (.attempt 0) (.ok (some tree))]

/-- Surroundings for runs by hand in which the link of the first session never comes up. -/
def lateWorld : Surroundings :=
  { plainWorld with link := fun session => .reported (session != 0) }

/-- A failure that comes late. -/
def belated : Failure :=
  .reported .link "late"

/-- The events of a first attempt that fails too late: a shutdown cancels it while it connects, the
supervisor is started again, and its second attempt makes a connection that is ready and brings a
reading.  Only then does the call of the first attempt end, and it fails. -/
def lateFailure : List Event :=
  [.started, .expired (.retry 0), .begins (.attempt 0), .shutdownAsked, .begins (.shutdown 0),
    .started, .expired (.retry 1), .begins (.attempt 1), .resumed (.attempt 1) (.returned []),
    .treeRead (.attempt 1) (.ok (some [])), .notified 0 (some 1) [0x34, 0x08],
    .resumed (.attempt 0) (.raised belated)]

/-- The late failure ends a lawful run. -/
theorem lateFailure_run : Run plainSettings (moments plainSettings lateWorld .fresh lateFailure)
    (play plainSettings lateWorld .fresh lateFailure) :=
  run_play (fun _ _ => rfl) rfl

/-- The first connection is a lawful run. -/
theorem firstConnection_run : Run plainSettings (moments plainSettings plainWorld .fresh
    firstConnection) (play plainSettings plainWorld .fresh firstConnection) :=
  run_play (fun _ _ => rfl) rfl

/-- It ends with a connection that is ready. -/
theorem firstConnection_ready :
    (play plainSettings plainWorld .fresh firstConnection).machine.state = .ready := by
  decide +kernel

end Supervisor

end SensorLink
