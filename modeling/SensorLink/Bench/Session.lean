/-
# One session on the bench

A single session is driven by hand: each operation is started, and time passes
until it ends or a hundred seconds are over.  An operation that is still pending
then is cancelled.
-/

import SensorLink.Bench.Basic

namespace SensorLink.Bench

open Connection (Machine State)
open Gatt (Call Ending)
open Journal (Level Record)

/-- The end of a call that an operation waits for. -/
structure Awaited where
  operation : Nat
  call : Call
  ending : Ending

/-- What can be seen of a session from outside. -/
inductive SessionSight where
  | journal (r : Record)
  | opened
  | called (call : Call)
  /-- The session's owner is told that the link is down. -/
  | disconnected
  /-- The session's owner receives a value. -/
  | value (handle : Option Int) (payload : List UInt8)

/-- A session with its client. -/
structure SessionBench extends Gatt.Session where
  threshold : Level
  client : Client
  /-- A state machine of someone else's, which reading the client's tree may take down. -/
  bystander : Machine Nat
  clock : Clock Awaited
  operations : Nat
  results : List (Nat × Except Failure (List UInt8))
  trace : List (Nat × SessionSight)

namespace SessionBench

/-- A session that has just constructed its client. -/
def afterOpening (address security : String) (limits : Gatt.Limits Float) (threshold : Level)
    (script : Script) : SessionBench where
  address
  security
  limits
  threshold
  client := { script }
  released := false
  bystander := .fresh
  clock := .zero
  operations := 0
  results := []
  trace := [(0, .opened)]

/-- Note something seen now. -/
def note (b : SessionBench) (sight : SessionSight) : SessionBench :=
  { b with trace := b.trace ++ [(b.clock.now, sight)] }

/-- Leave a record in the journal, if it passes the threshold. -/
def record (b : SessionBench) (r : Record) : SessionBench :=
  if r.level.passes b.threshold then b.note (.journal r) else b

/-- End an operation. -/
def finish (b : SessionBench) (operation : Nat) (result : Except Failure (List UInt8)) :
    SessionBench :=
  { b with results := (operation, result) :: b.results }

/-- Start a call for an operation. -/
def startCall (b : SessionBench) (operation : Nat) (call : Call) : SessionBench :=
  let settlement := b.toSession.settle call (b.client.outcomeOf call).alone
  let item : Awaited := ⟨operation, call, settlement.ending⟩
  let b := if b.allows call then { b with client := b.client.noteCall call }.note (.called call)
    else b
  match settlement.after with
  | none => { b with clock := b.clock.push item }
  | some span => { b with clock := b.clock.wait span item }

/-- What follows a call's end. -/
def proceed (b : SessionBench) (a : Awaited) : SessionBench :=
  match b.toSession.proceed a.call a.ending with
  | none => b
  | some (.ends result) => b.finish a.operation result
  | some (.pairs r) => (b.record r).startCall a.operation .pair

/-- A call ends.  A success changes the client; a disconnect may be reported to the owner
first. -/
def settle (b : SessionBench) (a : Awaited) : SessionBench :=
  let b := match a.ending with
    | .returned _ =>
      let b := if b.client.reportsLoss a.call then b.note .disconnected else b
      { b with client := b.client.succeed 0 a.call }
    | _ => b
  b.proceed a

/-- Run everything that is ready; `fuel` bounds the number of items. -/
def drain : (fuel : Nat) → SessionBench → SessionBench
  | 0, b => b
  | fuel + 1, b =>
    match b.clock.ready with
    | [] => b
    | a :: rest => drain fuel (settle { b with clock := { b.clock with ready := rest } } a)

/-- Run everything that is ready. -/
def run (b : SessionBench) : SessionBench :=
  b.drain drainFuel

/-- Let time pass until a time or until a condition holds, whichever comes first; `fuel` bounds
the number of times at which something is due. -/
def moveUntil (stop : SessionBench → Bool) (deadline : Nat) : (fuel : Nat) → SessionBench →
    SessionBench
  | 0, b => b
  | fuel + 1, b =>
    if stop b then b
    else
      match b.clock.nextBy? (some deadline) with
      | some due => moveUntil stop deadline fuel (run { b with clock := b.clock.moveTo due })
      | none => { b with clock := b.clock.moveTo deadline }

/-- Let time pass. -/
def advance (b : SessionBench) (span : Nat) : SessionBench :=
  moveUntil (fun _ => false) (b.clock.now + span) moveFuel b.run

/-- How long an operation is waited for, in microseconds. -/
def patience : Nat := 100000000

/-- The result of an operation, if it has ended. -/
def result? (b : SessionBench) (operation : Nat) : Option (Except Failure (List UInt8)) :=
  b.results.lookup operation

/-- Forget a pending operation. -/
def cancel (b : SessionBench) (operation : Nat) : SessionBench :=
  { b with clock := b.clock.drop (·.operation == operation) }

/-- Start an operation and wait for it; one that is still pending then is cancelled and has no
result. -/
def perform (b : SessionBench) (call : Call) :
    SessionBench × Option (Except Failure (List UInt8)) :=
  match b.refusal? call.label with
  | some f => (b, some (.error f))
  | none =>
    let n := b.operations
    let b := run ({ b with operations := n + 1 }.startCall n call)
    let b := moveUntil (fun b => (b.result? n).isSome) (b.clock.now + patience) moveFuel b
    match b.result? n with
    | some result => (b, some result)
    | none => (b.cancel n, none)

/-- Someone outside asks the bystander for a transition. -/
def askTransition (b : SessionBench) (target : State) : SessionBench × Bool :=
  let b := b.record (b.bystander.transitionRecord target)
  let (bystander, accepted) := b.bystander.transition target none
  ({ b with bystander }, accepted)

/-- Read the client's tree, which may take the bystander down.  Without the client nothing is
read. -/
def touchTree (b : SessionBench) : SessionBench :=
  if !b.released && b.client.script.supersedes then (b.askTransition .disconnected).1 else b

/-- Discover the services. -/
def discover (b : SessionBench) : SessionBench × Except Failure Gatt.Tree :=
  (b.touchTree, b.toSession.discover b.client.treeReading)

/-- Look a characteristic up. -/
def characteristic (b : SessionBench) (handle : Option Int) :
    SessionBench × Option Gatt.Characteristic :=
  (b.touchTree, b.toSession.characteristic (b.client.characteristic handle))

/-- Whether the client holds a live link; a client that cannot tell counts as down. -/
def checkLink (b : SessionBench) : SessionBench × Bool :=
  if b.released then (b, false)
  else
    match b.client.linkReading with
    | .reported up => (b, up)
    | .failed f => (b.record (Journal.caught "Unable to read bleak connection state" f), false)

/-- Forget the client. -/
def release (b : SessionBench) : SessionBench :=
  { b with toSession := b.toSession.release }

/-- The client's link goes down, which is reported. -/
def dropLink (b : SessionBench) : SessionBench :=
  { b with client := { b.client with up := false } }.note .disconnected

/-- The client delivers a notification; nobody may be subscribed. -/
def deliver (b : SessionBench) (handle : Option Int) (payload : List UInt8) : Option SessionBench :=
  (b.client.subscribers.lookup handle).map fun _ => b.note (.value handle payload)

/-- Change the client's script. -/
def rescript (b : SessionBench) (f : Script → Script) : SessionBench :=
  { b with client := { b.client with script := f b.client.script } }

/-- Take the trace, leaving an empty one. -/
def takeTrace (b : SessionBench) : SessionBench × List (Nat × SessionSight) :=
  ({ b with trace := [] }, b.trace)

end SessionBench

end SensorLink.Bench
