/-
# The supervisor

The supervisor owns the connection to one peripheral and keeps it alive: it
connects, discovers, ingests, and after every loss connects again, until it is
shut down.  This module holds its state and the parts that its callbacks share:
retries, the state of a session's link, and tearing a connection down.
-/

import SensorLink.Gatt.Listing
import SensorLink.Ingestion.Basic

namespace SensorLink

open Connection (State)
open Link (Effect LinkReading Settings Surroundings TaskId TimerId)

/-- The state of a supervisor and of the link it owns. -/
structure Supervisor (δ : Type) extends Link δ where
  stopped : Bool
  /-- Failures since the last success. -/
  failures : Nat
  /-- The session in charge. -/
  session : Option Nat
  handleMap : Option Gatt.HandleMap
  /-- The ingestion in charge. -/
  ingestion : Option Nat
  retryTimer : Option TimerId
  discoveryTimer : Option TimerId
  /-- The latest attempt, unless a shutdown has dropped it. -/
  attempt : Option Nat
  /-- How many attempts, retry timers and shutdowns there were. -/
  attempts : Nat
  retries : Nat
  shutdowns : Nat

namespace Supervisor

variable {δ : Type}

/-- A supervisor that has not been started. -/
def fresh : Supervisor δ where
  toLink := .fresh
  stopped := true
  failures := 0
  session := none
  handleMap := none
  ingestion := none
  retryTimer := none
  discoveryTimer := none
  attempt := none
  attempts := 0
  retries := 0
  shutdowns := 0

/-- Change the link. -/
def onLink (s : Supervisor δ) (f : Link δ → Link δ) : Supervisor δ :=
  { s with toLink := f s.toLink }

/-- Write an effect. -/
def tell (s : Supervisor δ) (e : Effect δ) : Supervisor δ :=
  s.onLink (·.emit e)

/-- Leave a record of a level. -/
def say (s : Supervisor δ) (cfg : Settings δ) (level : Journal.Level) (text : String) :
    Supervisor δ :=
  s.onLink (·.note cfg level text)

/-- Leave a record about an unexpected failure. -/
def complain (s : Supervisor δ) (cfg : Settings δ) (text : String) (f : Failure) :
    Supervisor δ :=
  s.onLink (·.record cfg (Journal.unexpected text f))

/-- End a task. -/
def finish (s : Supervisor δ) (task : TaskId) (how : Link.Finish) : Supervisor δ :=
  s.onLink (·.onLoop (·.finish task how))

/-- End a task with a failure, if there is one. -/
def finishWith (task : TaskId) (outcome : Supervisor δ × Option Failure) : Supervisor δ :=
  outcome.1.finish task (outcome.2.elim .done .failed)

/-- Let a task wait for a call on a session's client. -/
def await (s : Supervisor δ) (task : TaskId) (session : Nat) (call : Gatt.Call)
    (point : Link.Point) : Supervisor δ :=
  s.onLink (·.request task session call point)

/-- Leave the state of the machine for disconnected, unless it is there already. -/
def dropState (s : Supervisor δ) (cfg : Settings δ) : Supervisor δ :=
  if s.machine.state = .disconnected then s
  else s.onLink (·.transition cfg .disconnected none)

/-- Forget a session if it is the one in charge. -/
def forget (s : Supervisor δ) (session : Nat) : Supervisor δ :=
  if s.session = some session then { s with session := none } else s

/-- Whether a session's client holds a live link; a client that cannot tell counts as down. -/
def checkLink (s : Supervisor δ) (cfg : Settings δ) (env : Surroundings) (session : Nat) :
    Supervisor δ × Bool :=
  if s.isReleased session then (s, false)
  else
    match env.link session with
    | .reported up => (s, up)
    | .failed f =>
      (s.onLink (·.recordFailure cfg "Unable to read bleak connection state" f), false)

/-- Set the timer of the next attempt in place of any earlier one, unless stopped. -/
def scheduleConnect (s : Supervisor δ) (delay : δ) : Supervisor δ :=
  if s.stopped then s
  else
    let s := match s.retryTimer with
      | some timer => s.onLink (·.onLoop (·.unschedule timer))
      | none => s
    let timer := TimerId.retry s.retries
    { s.onLink (·.onLoop (·.schedule timer (.delay delay))) with
      retryTimer := some timer, retries := s.retries + 1 }

/-- Count a failure and set the timer of the next attempt.  There may be no delay to wait. -/
def scheduleRetry (s : Supervisor δ) (cfg : Settings δ) : Supervisor δ × Option Failure :=
  match cfg.retryDelay s.failures with
  | .error f => (s, some f)
  | .ok delay =>
    let s := { s with failures := s.failures + 1 }
    let s := s.say cfg .info
      ("Reconnecting to " ++ cfg.address ++ " in " ++ cfg.showDelay delay ++ "s")
    (s.scheduleConnect delay, none)

/-- Take the discovery timer back. -/
def cancelDiscoveryTimer (s : Supervisor δ) : Supervisor δ :=
  match s.discoveryTimer with
  | some timer =>
    { s.onLink (·.onLoop (·.unschedule timer)) with discoveryTimer := none }
  | none => s

/-- Call the listener of a lost connection. -/
def tellLost (s : Supervisor δ) (cfg : Settings δ) (env : Surroundings) : Supervisor δ :=
  let s := s.tell .lost
  match env.lostFails with
  | some f => s.onLink (·.recordFailure cfg "on_lost failed" f)
  | none => s

/-- Drop the ingestion, the handle map and the session, and take the store offline. -/
def teardown (s : Supervisor δ) (cfg : Settings δ) (env : Surroundings) : Supervisor δ :=
  let wasReady := s.machine.isReady
  let s := s.cancelDiscoveryTimer
  let s := match s.ingestion with
    | some i => { s.onLink (·.disarm i) with ingestion := none }
    | none => s
  let s := { s with handleMap := none }
  let s := match s.session with
    | some session => { s.onLink (·.release session) with session := none }
    | none => s
  let s := s.dropState cfg
  let s := s.onLink fun l => { l with store := l.store.setConnected false }
  if wasReady then s.tellLost cfg env else s

/-- The end of a connection is reported.  Only the report of the current connection, once it
is past connecting, tears it down and schedules a retry. -/
def connectionLost (s : Supervisor δ) (cfg : Settings δ) (env : Surroundings)
    (generation : Int) : Supervisor δ × Option Failure :=
  if s.machine.isCurrent generation then
    match s.machine.state with
    | .connecting =>
      (s.say cfg .debug "Ignoring disconnect while a connection is in progress.", none)
    | .disconnected => (s, none)
    | .discovering | .ready =>
      let s := s.say cfg .warning ("Disconnected from " ++ cfg.address)
      (s.teardown cfg env).scheduleRetry cfg
  else
    (s.say cfg .debug ("Ignoring stale disconnect (generation " ++ toString generation ++ ")"),
      none)

/-- The supervisor as text. -/
def text (s : Supervisor δ) (cfg : Settings δ) : String :=
  "SessionSupervisor(address=" ++ Text.quoted cfg.address ++ ", state=" ++
    s.machine.state.name ++ ", mode=" ++ Text.quoted cfg.modeName ++ ")"

end Supervisor

end SensorLink
