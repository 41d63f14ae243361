/-
# An interface on the bench

An interface runs on the bench's loop.  Its messages are published one by one to
listeners, some of which may fail; a failing listener stops nothing.
-/

import SensorLink.Bench.Basic
import SensorLink.Interface
import SensorLink.Publication

namespace SensorLink.Bench

open Interface (Message Verdict)

/-- The failures of the listeners, if they fail. -/
structure Listeners where
  established : Option Failure
  lost : Option Failure
  status : Option Failure
  reading : Option Failure

/-- The failure of the listener to a message. -/
def Listeners.failureOf (l : Listeners) : Message → Option Failure
  | .established => l.established
  | .lost => l.lost
  | .status _ => l.status
  | .reading .. => l.reading

/-- What can be seen of an interface from outside. -/
inductive InterfaceSight where
  | seen (s : Sight)
  | received (m : Message)

/-- An interface among scripted clients. -/
structure InterfaceBench where
  bench : Bench
  running : Bool
  exitHook : Bool
  listeners : Listeners

namespace InterfaceBench

/-- An interface that was never started. -/
def fresh (cfg : Link.Settings Float) (scripts : List Script) (listeners : Listeners) :
    InterfaceBench where
  bench := { Bench.fresh cfg scripts with bystander := some .fresh }
  running := false
  exitHook := false
  listeners

/-- Change the interface and carry out what it asks for. -/
def act (b : InterfaceBench) (f : Interface Float → Interface Float) : InterfaceBench :=
  let i := f ⟨b.bench.supervisor, b.running, b.bench.closed, b.exitHook⟩
  let bench := { b.bench with supervisor := i.supervisor, closed := i.closed }.flush
  { b with bench, running := i.running, exitHook := i.exitHook }

/-- Change the bench. -/
def onBench (b : InterfaceBench) (f : Bench → Bench) : InterfaceBench :=
  { b with bench := f b.bench }

/-- Start the interface. -/
def start (b : InterfaceBench) : InterfaceBench :=
  (b.act (·.start b.bench.cfg)).onBench .run

/-- Wait for the shutdown that was asked for, for a limited time if there is a limit. -/
def awaitShutdown (b : InterfaceBench) (task : Link.TaskId) (limit : Option Float) :
    InterfaceBench × Verdict :=
  let isOver (bench : Bench) := !bench.supervisor.loop.isLive task
  let b := b.onBench .run
  let deadline := (limit.bind Gatt.microseconds).map (b.bench.clock.now + ·)
  let b := b.onBench (Bench.moveUntil isOver deadline moveFuel)
  match b.bench.progress task with
  | .pending => (b, .overdue)
  | .ended how => (b, .ended how)

/-- Stop the interface, waiting for the shutdown, for a limited time if there is a limit. -/
def stop (b : InterfaceBench) (limit : Option Float) : InterfaceBench :=
  if b.running then
    let b := b.act (·.beginStop)
    let task := Link.TaskId.shutdown (b.bench.supervisor.shutdowns - 1)
    let (b, verdict) := b.awaitShutdown task limit
    let b := b.act (·.judge b.bench.cfg ((limit.map (Decimal.fixed 1)).getD "") verdict)
    let b := (b.act (·.cancelTasks)).onBench .run
    let b := b.act (·.close)
    b.onBench fun bench => { bench with clock := { bench.clock with ready := [], waiting := [] } }
  else b.act (·.stopIdle)

/-- What listeners see when a message is published. -/
def publish (listeners : Listeners) (m : Message) : List InterfaceSight :=
  (Publication.runAll [.mk m [] (listeners.failureOf m)]).map fun
    | .ran m => .received m
    | .record r => .seen (.journal r)

/-- What listeners see when messages are published one after the other. -/
def publishAll (b : InterfaceBench) (messages : List Message) : List InterfaceSight :=
  messages.flatMap (publish b.listeners)

/-- What is seen of the interface where this is seen of the supervisor. -/
def sightsOf (b : InterfaceBench) : Sight → List InterfaceSight
  | .ready => b.publishAll Interface.readyMessages
  | .lost => b.publishAll Interface.lostMessages
  | .reading kind value =>
    let r := Interface.publishingRecord kind value
    let record := if r.level.passes b.bench.cfg.threshold then [.seen (.journal r)] else []
    record ++ b.publishAll [.reading kind value]
  | sight => [.seen sight]

/-- Take the trace, leaving an empty one. -/
def takeTrace (b : InterfaceBench) : InterfaceBench × List (Nat × InterfaceSight) :=
  let (bench, trace) := b.bench.takeTrace
  ({ b with bench }, trace.flatMap fun (time, sight) => (b.sightsOf sight).map (time, ·))

end InterfaceBench

end SensorLink.Bench
