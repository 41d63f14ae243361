/-
# Scripted clients

A client on the bench follows a script: for every call it knows how long the
call takes and how it ends, what its link state reads, and which attribute tree
it shows.  Clients have no clock of their own; the bench asks them when and how
a call ends and tells them when it did.
-/

import SensorLink.Gatt.Session
import SensorLink.Link.Basic

namespace SensorLink.Bench

open Gatt (Call Ending Settlement Span)

/-- How a scripted call goes: it takes its time, and then hangs, fails or succeeds. -/
structure Outcome where
  /-- How long the call takes; a call without a delay does not wait at all. -/
  delay : Option Span := none
  hangs : Bool := false
  failure : Option Failure := none
  payload : List UInt8 := []

/-- How the client's link state is read. -/
inductive LinkSource where
  | shown
  | hidden
  | failing (f : Failure)

/-- The behaviour of a client. -/
structure Script where
  constructFailure : Option Failure := none
  connect : Outcome := {}
  pair : Outcome := {}
  disconnect : Outcome := {}
  subscribe : List (Int × Outcome) := []
  read : List (Int × List Outcome) := []
  /-- Whether a successful connect brings the link up. -/
  linkAfterConnect : Bool := true
  linkSource : LinkSource := .shown
  tree : Option Gatt.Tree := none
  treeFailure : Option Failure := none
  /-- Whether reading the tree first takes the state machine down. -/
  supersedes : Bool := false
  /-- Whether a disconnect of its own is reported like a lost link. -/
  reportsDisconnect : Bool := true

/-- A client with its script. -/
structure Client where
  script : Script
  up : Bool := false
  /-- Whom a handle's notifications go to: an ingestion. -/
  subscribers : List (Option Int × Nat) := []
  /-- The handles read so far. -/
  reads : List (Option Int) := []

namespace Client

/-- The scripted outcome of a call.  The outcomes of reads are used up one by one; the last
one stays. -/
def outcomeOf (c : Client) : Call → Outcome
  | .connect => c.script.connect
  | .pair => c.script.pair
  | .disconnect => c.script.disconnect
  | .subscribe handle => (handle.bind fun h => c.script.subscribe.lookup h).getD {}
  | .read handle =>
    match (handle.bind fun h => c.script.read.lookup h).getD [] with
    | [] => {}
    | first :: rest => (first :: rest).getD (c.reads.count handle) (rest.getLastD first)

/-- Remember that a call was made. -/
def noteCall (c : Client) : Call → Client
  | .read handle => { c with reads := handle :: c.reads }
  | _ => c

/-- What a successful call changes; the subscriber is the ingestion that asked. -/
def succeed (c : Client) (subscriber : Nat) : Call → Client
  | .connect => { c with up := c.script.linkAfterConnect }
  | .disconnect => { c with up := false }
  | .subscribe handle => { c with subscribers := (handle, subscriber) :: c.subscribers }
  | .pair | .read _ => c

/-- Whether a successful call makes the client report a lost link. -/
def reportsLoss (c : Client) : Call → Bool
  | .disconnect => c.up && c.script.reportsDisconnect
  | _ => false

/-- What reading the link state gives. -/
def linkReading (c : Client) : Link.LinkReading :=
  match c.script.linkSource with
  | .shown => .reported c.up
  | .hidden => .reported false
  | .failing f => .failed f

/-- What reading the attribute tree gives. -/
def treeReading (c : Client) : Except Failure (Option Gatt.Tree) :=
  match c.script.treeFailure with
  | some f => .error f
  | none => .ok c.script.tree

/-- The characteristic with a handle, if the tree can be searched for it. -/
def characteristic (c : Client) (handle : Option Int) : Option Gatt.Characteristic :=
  match c.treeReading with
  | .ok (some tree) =>
    match tree.findHandle handle with
    | .ok found => found
    | .error _ => none
  | _ => none

/-- What looking a handle up gives. -/
def lookup (c : Client) (handle : Option Int) : Link.Lookup where
  characteristic := c.characteristic handle
  supersedes := c.script.supersedes

end Client

/-- The ending of an outcome that does not hang. -/
def Outcome.ending (o : Outcome) : Ending :=
  o.failure.elim (.returned o.payload) .raised

/-- How a call with an outcome goes by itself.  One that hangs has no ending of its own. -/
def Outcome.alone (o : Outcome) : Settlement :=
  if o.hangs then ⟨some none, .timedOut⟩ else ⟨o.delay, o.ending⟩

end SensorLink.Bench
