/-
# The link

What the ingestion of readings works on: the connection's state machine, the
store, the sessions opened so far, the ingestions built so far, and the loop
they all run on.  Sessions and ingestions are known by their position.
-/

import SensorLink.Connection.Machine
import SensorLink.Gatt.HandleMap
import SensorLink.Gatt.Tree
import SensorLink.Link.Loop
import SensorLink.Store

namespace SensorLink.Link

open Connection (Machine)
open Gatt (Call Characteristic Entry HandleMap Limits)
open Journal (Level Record)
open Sensor (Kind PerKind)

/-- What reading a client's link state gives. -/
inductive LinkReading where
  | reported (up : Bool)
  | failed (f : Failure)

/-- What looking a handle up in a client's tree gives.  Reading the tree may at the same time
take the connection's state machine down. -/
structure Lookup where
  characteristic : Option Characteristic
  supersedes : Bool

/-- What the Bluetooth stack and the listeners answer at once, during one callback. -/
structure Surroundings where
  /-- Constructing a client. -/
  openClient : Except Failure Unit
  /-- The link state of a session's client. -/
  link : Nat → LinkReading
  /-- Looking up a handle with a session's client. -/
  lookup : Nat → Option Int → Lookup
  /-- The failures of the listeners, if they fail. -/
  readyFails : Option Failure
  lostFails : Option Failure
  readingFails : Option Failure

/-- How readings are fetched. -/
inductive Mode (δ : Type) where
  | notify
  | poll (interval : δ)

/-- What the owner of a link decides in advance. -/
structure Settings (δ : Type) where
  address : String
  /-- The name of the security level. -/
  security : String
  /-- The name of the way of ingestion. -/
  modeName : String
  /-- The way of ingestion that the name and the interval denote, if they denote one. -/
  mode : Except Failure (Mode δ)
  limits : Limits δ
  discoveryLimit : Option δ
  /-- The delay after a number of failures. -/
  retryDelay : Nat → Except Failure δ
  /-- No delay. -/
  atOnce : δ
  /-- A delay as a text with one decimal place. -/
  showDelay : δ → String
  /-- The least grave records that the journal keeps. -/
  threshold : Level

/-- The text of the limit that guards a call. -/
def Settings.limitText {δ : Type} (cfg : Settings δ) (call : Call) : Option String :=
  (cfg.limits.of call).map cfg.showDelay

/-- One connection attempt's session. -/
structure Session where
  /-- The generation of the attempt that opened it. -/
  generation : Nat
  /-- Whether the session has forgotten its client. -/
  released : Bool
  deriving DecidableEq, Repr

/-- The state of an ingestion that reads on a timer. -/
structure Polling (δ : Type) where
  interval : δ
  /-- The timer of the next tick. -/
  timer : Option TimerId
  /-- The read of each kind that has not completed. -/
  inFlight : PerKind (Option TaskId)
  /-- Ticks so far. -/
  ticks : Nat
  /-- Timers set so far. -/
  scheduled : Nat

/-- The state of an ingestion that is notified. -/
structure Subscriptions where
  /-- The subscriptions that have not completed. -/
  pending : List TaskId
  /-- How often the ingestion was armed. -/
  rounds : Nat

/-- The part of an ingestion that depends on its way. -/
inductive Strategy (δ : Type) where
  | notify (s : Subscriptions)
  | poll (p : Polling δ)

/-- The ingestion of one connection. -/
structure Ingestion (δ : Type) where
  session : Nat
  /-- The generation of the connection. -/
  generation : Nat
  handles : HandleMap
  armed : Bool
  /-- Malformed payloads since the last good one or the last warning. -/
  malformed : Nat
  strategy : Strategy δ

/-- An ingestion before it is armed. -/
def Ingestion.create {δ : Type} (mode : Mode δ) (session generation : Nat) (handles : HandleMap) :
    Ingestion δ where
  session
  generation
  handles
  armed := false
  malformed := 0
  strategy := match mode with
    | .notify => .notify ⟨[], 0⟩
    | .poll interval => .poll ⟨interval, none, .const none, 0, 0⟩

end Link

/-- The state that the ingestion of readings works on. -/
structure Link (δ : Type) where
  machine : Connection.Machine Nat
  store : Store
  sessions : List Link.Session
  ingestions : List (Link.Ingestion δ)
  loop : Link.Loop δ

namespace Link

variable {δ : Type}

/-- Nothing has happened yet. -/
def fresh : Link δ where
  machine := .fresh
  store := .fresh
  sessions := []
  ingestions := []
  loop := .idle

/-- Change the loop. -/
def onLoop (l : Link δ) (f : Loop δ → Loop δ) : Link δ :=
  { l with loop := f l.loop }

/-- Write an effect. -/
def emit (l : Link δ) (e : Effect δ) : Link δ :=
  l.onLoop (·.emit e)

/-- Leave a record in the journal, if it passes the threshold. -/
def record (l : Link δ) (cfg : Settings δ) (r : Journal.Record) : Link δ :=
  if r.level.passes cfg.threshold then l.emit (.journal r) else l

/-- Leave a record of a level. -/
def note (l : Link δ) (cfg : Settings δ) (level : Journal.Level) (text : String) : Link δ :=
  l.record cfg (Journal.note level text)

/-- Leave a record of a level that shows a handle.  A null handle cannot be shown, so the record is
lost. -/
def noteHandle (l : Link δ) (cfg : Settings δ) (level : Journal.Level) (before : String)
    (handle : Option Int) (after : String) : Link δ :=
  match handle with
  | some handle => l.note cfg level (before ++ Text.handleText handle ++ after)
  | none => l

/-- Ask the state machine for a transition. -/
def transition (l : Link δ) (cfg : Settings δ) (target : Connection.State)
    (session : Option Nat) : Link δ :=
  let l := l.record cfg (l.machine.transitionRecord target)
  { l with machine := (l.machine.transition target session).1 }

/-- Change an ingestion. -/
def onIngestion (l : Link δ) (i : Nat) (f : Ingestion δ → Ingestion δ) : Link δ :=
  { l with ingestions := l.ingestions.modify i f }

/-- Whether a session has forgotten its client. -/
def isReleased (l : Link δ) (session : Nat) : Bool :=
  (l.sessions[session]?).all Session.released

/-- Let a session forget its client. -/
def release (l : Link δ) (session : Nat) : Link δ :=
  { l with sessions := l.sessions.modify session fun s => { s with released := true } }

/-- Let a task wait for a call on a session's client. -/
def request (l : Link δ) (task : TaskId) (session : Nat) (call : Gatt.Call) (point : Point) :
    Link δ :=
  l.onLoop fun loop => (loop.suspend task point).emit (.request task session call)

/-- Leave a record about a failure that was caught. -/
def recordFailure (l : Link δ) (cfg : Settings δ) (text : String) (f : Failure) : Link δ :=
  l.record cfg (Journal.caught text f)

end Link

end SensorLink
