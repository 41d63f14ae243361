/-
# The program

The program reads its command line and environment, opens the interface to the
peripheral, and serves the readings, or only waits, until it is interrupted.
What happens meanwhile comes from outside; what the program does about it is the
run described here.
-/

import SensorLink.CommandLine.Help
import SensorLink.Device.Environment
import SensorLink.Journal

namespace SensorLink.Program

open CommandLine (Exit Request)
open Device (Config Environment)
open Journal (Level Record)

/-- What happens while the program runs. -/
inductive Occurrence where
  /-- The connection comes up or goes down. -/
  | connection (connected : Bool)
  /-- Serving or waiting fails. -/
  | failure (f : Failure)
  /-- The operator interrupts the program. -/
  | interrupt
  /-- A signal arrives. -/
  | signal (number : Nat)

/-- What the program does. -/
inductive Act where
  | configureJournal (threshold : Level)
  | journal (r : Record)
  | handleSignal (number : Nat)
  | openInterface (c : Config)
  | startInterface
  /-- Serve the readings at the host and the port of a configuration. -/
  | serve (c : Config)
  | wait
  /-- A signal interrupts the program with this text. -/
  | interrupted (text : String)
  | stopInterface

/-- How the program ends. -/
inductive Ending where
  | code (n : Nat)
  | exit (e : Exit)
  | failed (f : Failure)

/-- A run of the program. -/
structure Run where
  acts : List Act
  ending : Ending
  /-- Whether the libraries that the program uses were told to keep to warnings. -/
  hushed : Bool

/-- The least grave records that the program shows. -/
def threshold (r : Request) : Level :=
  if r.verbose then .debug else if r.quiet then .warning else .info

/-- The form of the records that the program shows. -/
def recordForm : String := "%(asctime)s %(levelname)s %(name)s: %(message)s"

/-- The signal that ends the program. -/
def terminationSignal : Nat := 15

/-- A record of the program itself. -/
def record (level : Level) (text : String) : Record where
  level
  source := .program
  text

/-- The record of a connection that comes up or goes down. -/
def connectionRecord (c : Config) (connected : Bool) : Record :=
  record .info ("Connection changed for " ++ c.address ++ ": " ++
    if connected then "Connected" else "Disconnected")

/-- What the program does while it serves or waits, until it is interrupted or fails. -/
def attend (c : Config) : List Occurrence → List Act × Option Failure
  | [] => ([], none)
  | .connection connected :: rest =>
    let (acts, failure) := attend c rest
    (.journal (connectionRecord c connected) :: acts, failure)
  | .failure f :: _ => ([], some f)
  | .interrupt :: _ => ([.journal (record .info "Exiting...")], none)
  | .signal number :: _ =>
    ([.interrupted ("signal " ++ toString number), .journal (record .info "Exiting...")], none)

/-- Serving or waiting. -/
def occupation (r : Request) (c : Config) : List Act :=
  if r.noWeb then [.wait]
  else
    let listening : Record :=
      { level := .info, source := .exposition,
        text := "HTTP server listening on http://" ++ c.hostText ++ ":" ++ toString c.httpPort }
    [.journal listening, .serve c]

/-- The run of a request with a configuration. -/
def runConfig (r : Request) (c : Config) (occurrences : List Occurrence) : List Act × Ending :=
  let (acts, failure) := attend c occurrences
  (.handleSignal terminationSignal :: .openInterface c :: .startInterface ::
      occupation r c ++ acts ++ [.stopInterface],
    failure.elim (.code 0) .failed)

/-- What follows an error of the configuration: a wrong value is reported, and any other error is a
failure of the program. -/
def refuse (e : Device.ConfigError) : List Act × Ending :=
  match e.kind with
  | .value => ([.journal (record .error e.message)], .code 2)
  | kind => ([], .failed (.reported kind e.message))

/-- The run of the program on a command line. -/
def run (words : List String) (env : Environment) (occurrences : List Occurrence) : Run :=
  match CommandLine.parse words with
  | .error stop =>
    { acts := [], ending := .exit stop.exit, hushed := false }
  | .ok request =>
    let (acts, ending) := match Config.ofEnvironment env (request.overrides.map .known) with
      | .error e => refuse e
      | .ok c => runConfig request c occurrences
    { acts := .configureJournal (threshold request) :: acts, ending, hushed := !request.verbose }

end SensorLink.Program
