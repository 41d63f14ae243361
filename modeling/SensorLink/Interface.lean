/-
# The interface to one peripheral

The interface runs a supervisor on an event loop of its own.  Starting it opens
the loop and begins the first attempt; stopping it shuts the supervisor down,
for a limited time, and then closes the loop with all that is left on it.  What
the supervisor tells its listeners is published as messages.
-/

import SensorLink.Supervisor.Step

namespace SensorLink

open Link (Effect Settings TaskId)
open Sensor (Kind)

/-- A supervisor and the loop it runs on. -/
structure Interface (δ : Type) where
  supervisor : Supervisor δ
  /-- Whether the loop runs. -/
  running : Bool
  /-- Whether the loop is closed. -/
  closed : Bool
  /-- Whether the end of the program would stop the interface. -/
  exitHook : Bool

namespace Interface

/-- A message to listeners elsewhere. -/
inductive Message where
  | established
  | lost
  | status (connected : Bool)
  | reading (kind : Kind) (value : Float)

variable {δ : Type}

/-- The messages about a connection that is ready. -/
def readyMessages : List Message := [.established, .status true]

/-- The messages about a connection that is lost. -/
def lostMessages : List Message := [.lost, .status false]

/-- The messages that an effect of the supervisor becomes. -/
def messagesOf : Effect δ → List Message
  | .ready => readyMessages
  | .lost => lostMessages
  | .reading kind value => [.reading kind value]
  | _ => []

/-- What the journal says before a reading is published. -/
def publishingRecord (kind : Kind) (value : Float) : Journal.Record :=
  Journal.note .debug ("Publishing " ++ kind.showReading value)

/-- An interface that was never started. -/
def fresh : Interface δ where
  supervisor := .fresh
  running := false
  closed := false
  exitHook := false

/-- Open the loop and begin the first attempt, unless the interface is running. -/
def start (i : Interface δ) (cfg : Settings δ) : Interface δ :=
  if i.running then i
  else
    let s := i.supervisor.say cfg .debug ("BLE connecting to: " ++ cfg.address)
    { supervisor := s.start cfg, running := true, closed := false, exitHook := true }

/-- Take the store offline. -/
def goOffline (i : Interface δ) : Interface δ :=
  { i with supervisor := i.supervisor.onLink fun l =>
      { l with store := l.store.setConnected false } }

/-- Stopping an interface that does not run. -/
def stopIdle (i : Interface δ) : Interface δ :=
  { i with exitHook := false }.goOffline

/-- Begin to stop: ask for a shutdown. -/
def beginStop (i : Interface δ) : Interface δ :=
  { i with exitHook := false, supervisor := i.supervisor.requestShutdown }

/-- The shutdown that was asked for last. -/
def lastShutdown (i : Interface δ) : TaskId :=
  .shutdown (i.supervisor.shutdowns - 1)

/-- How the wait for a shutdown ends. -/
inductive Verdict where
  | ended (how : Link.Finish)
  /-- The time for it is up. -/
  | overdue

/-- Leave a record about a shutdown that did not come to its end. -/
def complain (i : Interface δ) (cfg : Settings δ) (f : Failure) : Interface δ :=
  { i with supervisor := i.supervisor.complain cfg "Error while shutting down BLE session" f }

/-- What follows the wait for a shutdown; one that is overdue is cancelled. -/
def judge (i : Interface δ) (cfg : Settings δ) (limit : String) : Verdict → Interface δ
  | .ended .done => i
  | .ended .cancelled => i.complain cfg .cancelled
  | .ended (.failed f) => i.complain cfg f
  | .overdue =>
    let s := i.supervisor.onLink (·.onLoop (·.cancel i.lastShutdown))
    { i with
      supervisor := s.say cfg .warning ("BLE shutdown did not finish within " ++ limit ++ "s") }

/-- Cancel every live task. -/
def cancelTasks (i : Interface δ) : Interface δ :=
  let tasks := i.supervisor.loop.tasks.map Prod.fst
  { i with
    supervisor := tasks.foldl (fun s task => s.onLink (·.onLoop (·.cancel task))) i.supervisor }

/-- Close the loop, once the cancelled tasks have ended; its timers are gone with it. -/
def close (i : Interface δ) : Interface δ :=
  let s := i.supervisor.onLink (·.onLoop fun loop => { loop with timers := [] })
  { i with supervisor := s, running := false, closed := true }.goOffline

/-- The interface as text. -/
def text (cfg : Settings δ) : String :=
  "SensorInterface(address=" ++ Text.quoted cfg.address ++ ", ingestion=" ++
    Text.quoted cfg.modeName ++ ")"

end Interface

end SensorLink
