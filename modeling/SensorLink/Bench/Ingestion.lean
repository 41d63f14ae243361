/-
# One ingestion on the bench

A single ingestion is driven by hand: its session is open, its handles are
located in the session's tree, and the state machine has been moved along a
path.  Losing the link is noted and has no other consequence here.
-/

import SensorLink.Bench.Basic

namespace SensorLink.Bench

open Connection (Machine State)
open Link (Ingestion Session Settings)

/-- A bench with one session, on the first client, and its ingestion. -/
def ofIngestion (cfg : Settings Float) (scripts : List Script) (path : List State)
    (connected : Bool) : Except Failure Bench := do
  let b := Bench.fresh cfg scripts
  b.surroundings.openClient
  let machine : Machine Nat := path.foldl (fun m target => (m.transition target none).1) .fresh
  let tree := b.nextScript.tree.getD []
  let handles ← (Gatt.resolve tree).result
  let mode ← cfg.mode
  let client : Client := { script := b.nextScript }
  let link : Link Float :=
    { Link.fresh with
      machine
      store := Store.fresh.setConnected connected
      sessions := [⟨machine.generation, false⟩]
      ingestions := [Ingestion.create mode 0 machine.generation handles] }
  let supervisor := { b.supervisor with toLink := link, ingestion := some 0 }
  return { b with supervisor, clients := [client], constructions := 1, closed := true }

/-- Change the link, carry out what it asks for, and run everything that is ready. -/
def actOnLink (b : Bench) (f : Link Float → Link Float) : Bench :=
  (b.act (·.onLink f)).run

/-- Arm the ingestion. -/
def armIngestion (b : Bench) : Bench :=
  b.actOnLink (·.arm b.cfg 0)

/-- Disarm the ingestion. -/
def disarmIngestion (b : Bench) : Bench :=
  b.actOnLink (·.disarm 0)

/-- A client's link goes down.  Whoever opened the session is told, and does nothing. -/
def loseLink (b : Bench) (client : Nat) : Bench :=
  { b with clients := b.clients.modify client ({ · with up := false }) }.note .disconnected

/-- Whether the ingestion reads on a timer. -/
def polls (b : Bench) : Bool :=
  b.supervisor.toLink.ingestions.head?.any fun g =>
    match g.strategy with
    | .poll _ => true
    | .notify _ => false

/-- Hand a value to the ingestion; its failure is the caller's.  An ingestion that reads on a timer
does not take values. -/
def offer (b : Bench) (handle : Option Int) (payload : List UInt8) : Bench × Option Failure :=
  if b.polls then (b, some (.missing "_on_value"))
  else
    let (l, failure) := b.supervisor.toLink.notified b.cfg b.surroundings 0 handle payload
    (b.actOnLink fun _ => l, failure)

end SensorLink.Bench
