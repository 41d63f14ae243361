/-
# The bench

A bench runs a supervisor against scripted clients under the virtual clock.  It
carries out the effects that the supervisor writes to its tape, answers what the
supervisor asks at once, and keeps a trace of all that can be seen from outside,
with the time of every entry.
-/

import SensorLink.Bench.Client
import SensorLink.Bench.Clock
import SensorLink.Supervisor.Step

namespace SensorLink

open Connection (Machine State)
open Gatt (Call Ending)
open Link (Effect Settings Surroundings TaskId TimerId)
open Sensor (Kind)

namespace Bench

/-- What can be seen from outside. -/
inductive Sight where
  | journal (r : Journal.Record)
  | opened (client : Nat)
  | called (client : Nat) (call : Call)
  | ready
  | lost
  | reading (kind : Kind) (value : Float)
  | escaped (f : Failure)
  /-- The owner of a session is told that its link is down. -/
  | disconnected

/-- What waits on the clock: an event of the supervisor, or the end of a client's call. -/
inductive Item where
  | event (e : Event)
  | settled (task : TaskId) (client : Nat) (call : Call) (ending : Ending)

end Bench

/-- A supervisor among scripted clients. -/
structure Bench where
  cfg : Settings Float
  supervisor : Supervisor Float
  clock : Bench.Clock Bench.Item
  scripts : List Bench.Script
  /-- How many clients were to be constructed. -/
  constructions : Nat
  clients : List Bench.Client
  readyFails : Option Failure
  lostFails : Option Failure
  readingFails : Option Failure
  finished : List (TaskId × Link.Finish)
  /-- Whether the loop is closed to reports of clients. -/
  closed : Bool
  /-- A state machine of someone else's.  Where there is one, transitions that are asked for from
  outside are asked of it and not of the supervisor's. -/
  bystander : Option (Machine Nat)
  trace : List (Nat × Bench.Sight)

namespace Bench

/-- A bench on which nothing has happened yet. -/
def fresh (cfg : Settings Float) (scripts : List Script) : Bench where
  cfg
  supervisor := .fresh
  clock := .zero
  scripts
  constructions := 0
  clients := []
  readyFails := none
  lostFails := none
  readingFails := none
  finished := []
  closed := false
  bystander := none
  trace := []

/-- Note something seen now. -/
def note (b : Bench) (sight : Sight) : Bench :=
  { b with trace := b.trace ++ [(b.clock.now, sight)] }

/-- Make an item ready. -/
def push (b : Bench) (item : Item) : Bench :=
  { b with clock := b.clock.push item }

/-- The script of the next client to be constructed. -/
def nextScript (b : Bench) : Script :=
  b.scripts.getD b.constructions (b.scripts.getLastD {})

/-- What the clients and the listeners answer at once. -/
def surroundings (b : Bench) : Surroundings where
  openClient := b.nextScript.constructFailure.elim (.ok ()) .error
  link session := (b.clients[session]?).elim (.reported false) Client.linkReading
  lookup session handle := (b.clients[session]?).elim ⟨none, false⟩ (·.lookup handle)
  readyFails := b.readyFails
  lostFails := b.lostFails
  readingFails := b.readingFails

/-- The ingestion that a task works for. -/
def subscriberOf : TaskId → Nat
  | .subscription i .. => i
  | .read i .. => i
  | _ => 0

/-- Whether an item belongs to a task's call. -/
def Item.isCallOf (task : TaskId) : Item → Bool
  | .settled t .. => t == task
  | .event _ => false

/-- Whether an item is a timer going off. -/
def Item.isTimer (timer : TimerId) : Item → Bool
  | .event (.expired t) => t == timer
  | _ => false

/-- Start a call of a client. -/
def startCall (b : Bench) (task : TaskId) (client : Nat) (call : Call) : Bench :=
  let limit := b.cfg.limits.of call
  if Gatt.isExhausted limit then b.push (.event (.resumed task .timedOut))
  else
    match b.clients[client]? with
    | none => b
    | some c =>
      let b := b.note (.called client call)
      let b := { b with clients := b.clients.set client (c.noteCall call) }
      let settlement := (c.outcomeOf call).alone.within limit
      let item := Item.settled task client call settlement.ending
      match settlement.after with
      | none => b.push item
      | some span => { b with clock := b.clock.wait span item }

/-- Ask the bystander for a transition. -/
def askBystander (b : Bench) (m : Machine Nat) (target : State) : Bench × Bool :=
  let r := m.transitionRecord target
  let b := if r.level.passes b.cfg.threshold then b.note (.journal r) else b
  let (m, accepted) := m.transition target none
  ({ b with bystander := some m }, accepted)

/-- Whether a task is about to learn of its call's end. -/
def isResuming (b : Bench) (task : TaskId) : Bool :=
  b.clock.ready.any fun
    | .event (.resumed t _) => t == task
    | _ => false

/-- Carry out one effect. -/
def carryOut (b : Bench) : Effect Float → Bench
  | .journal r => b.note (.journal r)
  | .opened session =>
    let client : Client := { script := b.nextScript }
    let b := { b with
      clients := b.clients ++ [client], constructions := b.constructions + 1 }
    b.note (.opened session)
  | .refused => { b with constructions := b.constructions + 1 }
  | .request task session call => b.startCall task session call
  | .requestTree task session =>
    match b.clients[session]? with
    | none => b
    | some c =>
      let reading := Event.treeRead task c.treeReading
      let events := if c.script.supersedes then [.transitionAsked .disconnected, reading]
        else [reading]
      { b with clock := b.clock.pushFirst (events.map .event) }
  | .spawn task => b.push (.event (.begins task))
  | .cancel task =>
    let b := { b with clock := b.clock.drop (Item.isCallOf task) }
    if b.isResuming task then b else b.push (.event (.resumed task .cancelled))
  | .schedule timer .soon => b.push (.event (.expired timer))
  | .schedule timer (.delay d) =>
    { b with clock := b.clock.wait (Gatt.microseconds d) (.event (.expired timer)) }
  | .unschedule timer => { b with clock := b.clock.drop (Item.isTimer timer) }
  | .ended task how => { b with finished := (task, how) :: b.finished }
  | .ready => b.note .ready
  | .lost => b.note .lost
  | .reading kind value => b.note (.reading kind value)
  | .escaped f => b.note (.escaped f)

/-- Carry out the effects on the supervisor's tape. -/
def flush (b : Bench) : Bench :=
  let tape := b.supervisor.loop.tape
  let supervisor := b.supervisor.onLink (·.onLoop fun l => { l with tape := [] })
  tape.foldl carryOut { b with supervisor }

/-- Change the supervisor and carry out what it asks for. -/
def act (b : Bench) (f : Supervisor Float → Supervisor Float) : Bench :=
  flush { b with supervisor := f b.supervisor }

/-- Let the supervisor handle an event. -/
def handle (b : Bench) (e : Event) : Bench :=
  b.act fun s => s.step b.cfg b.surroundings e

/-- Someone outside asks for a transition. -/
def askTransition (b : Bench) (target : State) : Bench × Bool :=
  match b.bystander with
  | none => (b.handle (.transitionAsked target), (b.supervisor.machine.transition target none).2)
  | some m => b.askBystander m target

/-- A client reports that its link is down. -/
def reportLoss (b : Bench) (client : Nat) : Bench :=
  if b.closed then b
  else
    match b.supervisor.sessions[client]? with
    | some session => b.push (.event (.linkLost session.generation))
    | none => b

/-- A client's call ends.  A success changes the client; a disconnect may be reported before
the caller learns of it. -/
def settle (b : Bench) (task : TaskId) (client : Nat) (call : Call) (ending : Ending) : Bench :=
  let b := match ending, b.clients[client]? with
    | .returned _, some c =>
      let b := if c.reportsLoss call then b.reportLoss client else b
      { b with clients := b.clients.set client (c.succeed (subscriberOf task) call) }
    | _, _ => b
  b.push (.event (.resumed task ending))

/-- Run everything that is ready; `fuel` bounds the number of items. -/
def drain : (fuel : Nat) → Bench → Bench
  | 0, b => b
  | fuel + 1, b =>
    match b.clock.ready with
    | [] => b
    | item :: rest =>
      let b := { b with clock := { b.clock with ready := rest } }
      drain fuel <| match item with
        | .event e => b.handle e
        | .settled task client call ending => b.settle task client call ending

/-- Run everything that is ready. -/
def run (b : Bench) : Bench :=
  b.drain drainFuel

/-- Move the clock, running everything that is due on the way, until a condition holds or a
time is reached, if one is given; `fuel` bounds the number of times at which something is due. -/
def moveUntil (stop : Bench → Bool) (deadline : Option Nat) : (fuel : Nat) → Bench → Bench
  | 0, b => b
  | fuel + 1, b =>
    if stop b then b
    else
      match b.clock.nextBy? deadline with
      | some due => moveUntil stop deadline fuel (run { b with clock := b.clock.moveTo due })
      | none => { b with clock := b.clock.moveTo (deadline.getD b.clock.now) }

/-- Let time pass. -/
def advance (b : Bench) (span : Nat) : Bench :=
  moveUntil (fun _ => false) (some (b.clock.now + span)) moveFuel b.run

/-- A client's link goes down. -/
def dropLink (b : Bench) (client : Nat) : Bench :=
  match b.clients[client]? with
  | some c =>
    let b := { b with clients := b.clients.set client { c with up := false } }
    run (b.reportLoss client)
  | none => b

/-- How a notification was received. -/
inductive Delivery where
  | noClient
  | notSubscribed
  | received (failure : Option Failure)

/-- A client delivers a notification to the handle's subscriber. -/
def deliver (b : Bench) (client : Nat) (handle : Option Int) (payload : List UInt8) :
    Bench × Delivery :=
  match b.clients[client]? with
  | none => (b, .noClient)
  | some c =>
    match c.subscribers.lookup handle with
    | none => (b, .notSubscribed)
    | some i =>
      let (l, failure) := b.supervisor.toLink.notified b.cfg b.surroundings i handle payload
      (run (b.act fun s => { s with toLink := l }), .received failure)

/-- Change a client's script. -/
def rescript (b : Bench) (client : Nat) (f : Script → Script) : Bench :=
  { b with clients := b.clients.modify client fun c => { c with script := f c.script } }

/-- Take the trace, leaving an empty one. -/
def takeTrace (b : Bench) : Bench × List (Nat × Sight) :=
  ({ b with trace := [] }, b.trace)

/-- How far a task has come. -/
inductive Progress where
  | pending
  | ended (how : Link.Finish)

/-- How far a task has come; a task that is neither live nor ended was never created. -/
def progress (b : Bench) (task : TaskId) : Progress :=
  if b.supervisor.loop.isLive task then .pending
  else .ended ((b.finished.lookup task).getD .done)

end Bench

end SensorLink
