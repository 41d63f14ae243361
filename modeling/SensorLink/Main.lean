/-
# The command

The outer layer of the program.  It hands the words of the command line and the
variables of the environment to the run, and then performs what the run does: it
writes records that pass the threshold to the standard error output, and serving
or waiting lasts until the standard input ends, which interrupts the program.
-/

import SensorLink.Device.Environment
import SensorLink.Program

namespace SensorLink.Program

open Journal (Level)

/-- The variables that are set. -/
def readEnvironment : IO Device.Environment :=
  Device.knownVariables.filterMapM fun v => do
    return (← IO.getEnv v.name).map fun text => (v.name, text)

/-- Wait for the end of a stream. -/
partial def awaitEnd (input : IO.FS.Stream) : IO Unit := do
  unless (← input.getLine).isEmpty do
    awaitEnd input

/-- Perform one act, showing the records that pass a threshold. -/
def perform (threshold : Level) : Act → IO Unit
  | .journal r =>
    if r.level.passes threshold then IO.eprintln (r.level.name ++ " " ++ r.text) else pure ()
  | .serve _ | .wait => do
    awaitEnd (← IO.getStdin)
  | _ => pure ()

/-- The threshold that an act sets. -/
def thresholdSet? : Act → Option Level
  | .configureJournal level => some level
  | _ => none

/-- Perform a run and report its exit code. -/
def Run.perform (r : Run) : IO UInt32 := do
  let threshold := (r.acts.findSome? thresholdSet?).getD .warning
  for act in r.acts do
    Program.perform threshold act
  match r.ending with
  | .code n => return n.toUInt32
  | .exit e =>
    IO.print e.stdout
    IO.eprint e.stderr
    return e.code.toUInt32
  | .failed f =>
    IO.eprintln f.message
    return 1

end SensorLink.Program

/-- Run the program; the end of the standard input is the operator's interrupt. -/
def main (words : List String) : IO UInt32 := do
  let env ← SensorLink.Program.readEnvironment
  (SensorLink.Program.run words env [.interrupt]).perform
