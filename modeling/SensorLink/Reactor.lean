/-
# The reactor

One thread that runs an event loop.  Starting a running reactor does nothing;
stopping it ends its tasks and closes the loop, and a later start opens another.
What is asked of a loop that is closed fails; what is asked of one that has not
been started waits for the start.
-/

import SensorLink.Decimal.Style
import SensorLink.Journal

namespace SensorLink

/-- A reactor whose callbacks leave marks of some type. -/
structure Reactor (α : Type) where
  /-- The name of its thread. -/
  name : String
  running : Bool
  /-- Whether its loop is closed. -/
  closed : Bool
  /-- The marks that callbacks will leave once the loop runs. -/
  waiting : List α
  /-- The marks left so far. -/
  marks : List α
  /-- The marks that sleeping tasks leave when they are cancelled. -/
  sleeping : List α

namespace Reactor

variable {α : Type}

/-- The name of a reactor's thread, unless another is given. -/
def defaultName : String := "BLEReactor"

/-- The seconds that stopping a reactor waits for its thread. -/
def joinSeconds : Float := 2

/-- A reactor that was never started. -/
def fresh (name : String := defaultName) : Reactor α :=
  ⟨name, false, false, [], [], []⟩

/-- Run the waiting callbacks, if the loop runs. -/
def settle (r : Reactor α) : Reactor α :=
  if r.running then { r with marks := r.marks ++ r.waiting, waiting := [] } else r

/-- Start the thread; the system may refuse another one, which closes the loop. -/
def start (r : Reactor α) (refused : Bool := false) : Reactor α × Except Failure String :=
  if r.running then (r, .ok r.name)
  else
    let r := if r.closed then { r with closed := false, waiting := [], sleeping := [] } else r
    if refused then ({ r with closed := true }, .error .noThread)
    else (settle { r with running := true }, .ok r.name)

/-- Let a callback leave a mark. -/
def callSoon (r : Reactor α) (mark : α) : Reactor α × Except Failure (List α) :=
  if r.closed then (r, .error .loopClosed)
  else
    let r := settle { r with waiting := r.waiting ++ [mark] }
    (r, .ok r.marks)

/-- Run something on the loop and wait for its outcome. -/
def run {β : Type} (r : Reactor α) (outcome : Except Failure β) : Except Failure β :=
  if r.closed then .error .loopClosed
  else if r.running then outcome
  else .error (.reported .timeout "")

/-- Start a task that sleeps until it is cancelled, when it leaves a mark. -/
def spawnSleeper (r : Reactor α) (mark onCancel : α) : Reactor α × Except Failure (List α) :=
  if r.closed then (r, .error .loopClosed)
  else { r with sleeping := r.sleeping ++ [onCancel] }.callSoon mark

/-- The end of the loop: sleeping tasks are cancelled. -/
def halt (r : Reactor α) : Reactor α :=
  { r with running := false, closed := true, marks := r.marks ++ r.sleeping, sleeping := [] }

/-- Stop the loop and wait for the thread. -/
def stop (r : Reactor α) : Reactor α :=
  if r.running then r.halt else r

/-- What the journal says of a thread that outlives the wait for it. -/
def lingeringRecord (seconds : Float) : Journal.Record :=
  Journal.note .warning
    ("BLE reactor thread did not exit within " ++ Decimal.fixed 1 seconds ++ "s")

/-- Stop the loop while a callback keeps it busy for longer than the wait.  A closed loop takes
no callback. -/
def stopBusy (r : Reactor α) (seconds : Float) :
    Reactor α × Except Failure (List Journal.Record) :=
  if r.closed then (r, .error .loopClosed)
  else if r.running then (r.halt, .ok [lingeringRecord seconds])
  else (r, .ok [])

end Reactor

end SensorLink
