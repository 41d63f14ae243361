/-
# The event loop

Everything that talks to the peripheral runs on one loop, one callback at a
time.  A task that waits for something is kept as the point at which it will go
on; a timer is known by its purpose.  Callbacks do not act on the world: they
write effects to a tape, and whoever drives the loop carries them out.
-/

import SensorLink.Gatt.Call
import SensorLink.Journal

namespace SensorLink.Link

open Gatt (Call)
open Sensor (Kind)

/-- The tasks.  Attempts and shutdowns are numbered in the order of their creation, the other
tasks by what started them. -/
inductive TaskId where
  | attempt (number : Nat)
  | forcedDisconnect (attempt : Nat)
  | shutdown (number : Nat)
  /-- The subscription of a kind in a round of arming an ingestion. -/
  | subscription (ingestion : Nat) (kind : Kind) (round : Nat)
  /-- The read of a kind in a tick of an ingestion. -/
  | read (ingestion : Nat) (kind : Kind) (tick : Nat)
  deriving DecidableEq, Repr

/-- The timers. -/
inductive TimerId where
  | retry (number : Nat)
  /-- The limit of an attempt's discovery, and the generation of the attempt. -/
  | discovery (attempt generation : Nat)
  | tick (ingestion number : Nat)
  deriving DecidableEq, Repr

/-- Where a live task goes on. -/
inductive Point where
  | attemptStart
  | connecting (generation session : Nat)
  | pairing (generation session : Nat)
  | discovering (generation session : Nat)
  | discarding (session : Nat)
  | forcedStart (session : Option Nat) (generation : Nat)
  | forcedClosing (generation : Nat)
  | shutdownStart
  | shutdownClosing
  | subscriptionStart (session : Nat) (handle : Option Int)
  | subscribing (handle : Option Int)
  | readStart (session : Nat) (handle : Option Int)
  | reading (handle : Option Int)
  /-- Cancelled before its first step, which it will not take. -/
  | doomed
  deriving DecidableEq, Repr

/-- Whether a task at this point has not taken its first step. -/
def Point.isStart : Point → Bool
  | attemptStart | forcedStart .. | shutdownStart | subscriptionStart .. | readStart .. => true
  | _ => false

/-- When a timer is due: with the callbacks that are ready now, or after a delay. -/
inductive Wait (δ : Type) where
  | soon
  | delay (d : δ)

/-- How a task ended. -/
inductive Finish where
  | done
  | cancelled
  | failed (f : Failure)

/-- What callbacks ask of the world and tell it. -/
inductive Effect (δ : Type) where
  | journal (r : Journal.Record)
  /-- A client was constructed for a session, or could not be constructed. -/
  | opened (session : Nat)
  | refused
  /-- A task waits for a call on a session's client. -/
  | request (task : TaskId) (session : Nat) (call : Call)
  /-- A task waits for the attribute tree of a session's client. -/
  | requestTree (task : TaskId) (session : Nat)
  | spawn (task : TaskId)
  | cancel (task : TaskId)
  | schedule (timer : TimerId) (wait : Wait δ)
  | unschedule (timer : TimerId)
  | ended (task : TaskId) (finish : Finish)
  /-- The listeners are called. -/
  | ready
  | lost
  | reading (kind : Kind) (value : Float)
  /-- A callback of the loop failed. -/
  | escaped (f : Failure)

/-- The live tasks, the live timers, and the tape of effects. -/
structure Loop (δ : Type) where
  tasks : List (TaskId × Point)
  timers : List TimerId
  tape : List (Effect δ)

namespace Loop

variable {δ : Type}

/-- No task, no timer, no effect. -/
def idle : Loop δ :=
  ⟨[], [], []⟩

/-- Write an effect. -/
def emit (l : Loop δ) (e : Effect δ) : Loop δ :=
  { l with tape := l.tape ++ [e] }

/-- Where a task goes on, if it is live. -/
def point? (l : Loop δ) (task : TaskId) : Option Point :=
  l.tasks.lookup task

/-- Whether a task is live. -/
def isLive (l : Loop δ) (task : TaskId) : Bool :=
  (l.point? task).isSome

/-- Let a task go on at a point. -/
def suspend (l : Loop δ) (task : TaskId) (point : Point) : Loop δ :=
  { l with tasks := (task, point) :: l.tasks.filter (·.1 != task) }

/-- Create a task; its first step is ready. -/
def spawn (l : Loop δ) (task : TaskId) (point : Point) : Loop δ :=
  (l.suspend task point).emit (.spawn task)

/-- End a task. -/
def finish (l : Loop δ) (task : TaskId) (how : Finish) : Loop δ :=
  ({ l with tasks := l.tasks.filter (·.1 != task) }).emit (.ended task how)

/-- Cancel a task; a dead task stays dead. -/
def cancel (l : Loop δ) (task : TaskId) : Loop δ :=
  match l.point? task with
  | none => l
  | some point => (if point.isStart then l.suspend task .doomed else l).emit (.cancel task)

/-- Set a timer. -/
def schedule (l : Loop δ) (timer : TimerId) (wait : Wait δ) : Loop δ :=
  ({ l with timers := timer :: l.timers }).emit (.schedule timer wait)

/-- Take a timer back. -/
def unschedule (l : Loop δ) (timer : TimerId) : Loop δ :=
  ({ l with timers := l.timers.filter (· != timer) }).emit (.unschedule timer)

/-- Let a timer go off. -/
def expire (l : Loop δ) (timer : TimerId) : Loop δ :=
  { l with timers := l.timers.filter (· != timer) }

end Loop

end SensorLink.Link
