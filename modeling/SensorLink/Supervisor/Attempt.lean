/-
# Attempts

An attempt opens a session, connects, pairs if the security level asks for it,
discovers the attribute tree and sets the ingestion up.  While it waits, the
world goes on.  If its link comes up in a generation that is no longer current,
the attempt closes its own session and touches nothing else.  But if it fails to
connect or to pair, it gives up whatever the generation: it takes the machine
down and schedules a retry.
-/

import SensorLink.Gatt.Resolution
import SensorLink.Gatt.Session
import SensorLink.Supervisor.Basic

namespace SensorLink

open Gatt (Ending)
open Link (Settings Surroundings TaskId TimerId)

namespace Supervisor

variable {δ : Type}

/-- The timer of the next attempt goes off: create the attempt, if one may start. -/
def beginAttempt (s : Supervisor δ) : Supervisor δ :=
  let s := { s with retryTimer := none }
  if s.stopped || !s.machine.canConnect then s
  else
    let task := TaskId.attempt s.attempts
    { s.onLink (·.onLoop (·.spawn task .attemptStart)) with
      attempt := some s.attempts, attempts := s.attempts + 1 }

/-- Give an attempt up and schedule the next one. -/
def failAttempt (s : Supervisor δ) (cfg : Settings δ) (session : Option Nat) :
    Supervisor δ × Option Failure :=
  let s := match session with
    | some session => (s.onLink (·.release session)).forget session
    | none => s
  (s.dropState cfg).scheduleRetry cfg

/-- The first step of an attempt: open a session and connect. -/
def startAttempt (s : Supervisor δ) (cfg : Settings δ) (env : Surroundings) (n : Nat) :
    Supervisor δ :=
  let task := TaskId.attempt n
  let s := s.onLink (·.transition cfg .connecting none)
  let generation := s.machine.generation
  let s := s.say cfg .info ("Connecting to " ++ cfg.address ++ " (attempt " ++
    toString (s.failures + 1) ++ ")")
  match env.openClient with
  | .error f =>
    let s := s.tell .refused
    let s := s.complain cfg ("Failed to set up BLE session for " ++ cfg.address) f
    finishWith task (s.failAttempt cfg none)
  | .ok () =>
    let session := s.sessions.length
    let s := s.onLink fun l => { l with sessions := l.sessions ++ [⟨generation, false⟩] }
    let s := { s.tell (.opened session) with session := some session }
    s.await task session .connect (.connecting generation session)

/-- Connecting or pairing failed. -/
def connectFailed (s : Supervisor δ) (cfg : Settings δ) (n session : Nat) (f : Failure) :
    Supervisor δ :=
  let s :=
    if f.isTransport then
      s.say cfg .warning ("Connect to " ++ cfg.address ++ " failed: " ++ f.message)
    else s.complain cfg ("Unexpected error connecting to " ++ cfg.address) f
  finishWith (.attempt n) (s.failAttempt cfg (some session))

/-- Drop the session of a superseded attempt. -/
def finishDiscard (s : Supervisor δ) (n session : Nat) : Supervisor δ :=
  ((s.onLink (·.release session)).forget session).finish (.attempt n) .done

/-- The link of a superseded attempt came up: close it. -/
def discard (s : Supervisor δ) (cfg : Settings δ) (env : Surroundings) (n session : Nat) :
    Supervisor δ :=
  let s := s.say cfg .debug ("Dropping superseded connection to " ++ cfg.address)
  let (s, up) := s.checkLink cfg env session
  if up then s.await (.attempt n) session .disconnect (.discarding session)
  else s.finishDiscard n session

/-- Ask for the attribute tree, under the limit of discovery if there is one. -/
def startDiscovery (s : Supervisor δ) (cfg : Settings δ) (n generation session : Nat) :
    Supervisor δ :=
  let s := match cfg.discoveryLimit with
    | some limit =>
      let timer := TimerId.discovery n generation
      { s.onLink (·.onLoop (·.schedule timer (.delay limit))) with discoveryTimer := some timer }
    | none => s
  s.onLink (·.onLoop fun loop =>
    (loop.suspend (.attempt n) (.discovering generation session)).emit
      (.requestTree (.attempt n) session))

/-- The link of an attempt is up. -/
def linkUp (s : Supervisor δ) (cfg : Settings δ) (env : Surroundings)
    (n generation session : Nat) : Supervisor δ :=
  if s.machine.isCurrent generation then
    let (s, up) := s.checkLink cfg env session
    if up then
      let s := s.say cfg .info ("Connected to " ++ cfg.address)
      let s := s.onLink (·.transition cfg .discovering (some session))
      s.startDiscovery cfg n generation session
    else
      let s := s.say cfg .warning ("Link to " ++ cfg.address ++ " dropped while connecting")
      finishWith (.attempt n) (s.failAttempt cfg (some session))
  else s.discard cfg env n session

/-- The transport is connected: pair, if the security level asks for it. -/
def transportUp (s : Supervisor δ) (cfg : Settings δ) (env : Surroundings)
    (n generation session : Nat) : Supervisor δ :=
  if cfg.security = "low" then s.linkUp cfg env n generation session
  else
    let s := s.say cfg .debug (Gatt.pairingText cfg.address cfg.security)
    s.await (.attempt n) session .pair (.pairing generation session)

/-- The end of the transport's connect. -/
def resumeConnecting (s : Supervisor δ) (cfg : Settings δ) (env : Surroundings)
    (n generation session : Nat) (ending : Ending) : Supervisor δ :=
  match ending.result? .connect (cfg.limitText .connect) with
  | none => s.finish (.attempt n) .cancelled
  | some (.ok _) => s.transportUp cfg env n generation session
  | some (.error f) => s.connectFailed cfg n session f

/-- The end of pairing. -/
def resumePairing (s : Supervisor δ) (cfg : Settings δ) (env : Surroundings)
    (n generation session : Nat) (ending : Ending) : Supervisor δ :=
  match ending.result? .pair (cfg.limitText .pair) with
  | none => s.finish (.attempt n) .cancelled
  | some (.ok _) => s.linkUp cfg env n generation session
  | some (.error f) => s.connectFailed cfg n session f

/-- The end of closing a superseded session. -/
def resumeDiscarding (s : Supervisor δ) (cfg : Settings δ) (n session : Nat) (ending : Ending) :
    Supervisor δ :=
  match ending.result? .disconnect (cfg.limitText .disconnect) with
  | none => s.finish (.attempt n) .cancelled
  | some (.ok _) => s.finishDiscard n session
  | some (.error f) =>
    if f.isTransport then
      (s.say cfg .debug ("Disconnect of superseded session failed: " ++ f.message)).finishDiscard
        n session
    else s.finish (.attempt n) (.failed f)

/-- Call the listener of a connection that is ready. -/
def tellReady (s : Supervisor δ) (cfg : Settings δ) (env : Surroundings) : Supervisor δ :=
  let s := s.tell .ready
  match env.readyFails with
  | some f => s.onLink (·.recordFailure cfg "on_ready failed" f)
  | none => s

/-- Arm a new ingestion and declare the connection ready. -/
def becomeReady (s : Supervisor δ) (cfg : Settings δ) (env : Surroundings) (session : Nat)
    (mode : Link.Mode δ) (handles : Gatt.HandleMap) : Supervisor δ :=
  let i := s.ingestions.length
  let g := Link.Ingestion.create mode session s.machine.generation handles
  let s := { s.onLink fun l => { l with ingestions := l.ingestions ++ [g] } with
    ingestion := some i }
  let s := s.onLink (·.arm cfg i)
  let s := s.onLink (·.transition cfg .ready none)
  let s := s.onLink fun l => { l with store := l.store.setConnected true }
  let s := { s with failures := 0 }
  let s := s.say cfg .info ("Session ready (" ++ cfg.modeName ++ " ingestion, " ++
    toString handles.size ++ " sensor characteristics)")
  s.tellReady cfg env

/-- List a tree in the journal, if the journal keeps such records. -/
def listTree (s : Supervisor δ) (cfg : Settings δ) (tree : Gatt.Tree) :
    Except Failure (Supervisor δ) :=
  if Journal.Level.debug.passes cfg.threshold then
    tree.listing.map fun text => s.say cfg .debug ("Discovered services:\n" ++ text)
  else .ok s

/-- Show a handle map in the journal; one that cannot be shown is left out. -/
def showHandles (s : Supervisor δ) (cfg : Settings δ) (handles : Gatt.HandleMap) : Supervisor δ :=
  match handles.text with
  | .ok text => s.say cfg .debug ("Resolved " ++ text)
  | .error _ => s

/-- Set the ingestion up for a discovered tree.  A failure leaves the attempt at once. -/
def setUp (s : Supervisor δ) (cfg : Settings δ) (env : Surroundings) (session : Nat)
    (tree : Gatt.Tree) : Supervisor δ × Option Failure :=
  let s := s.cancelDiscoveryTimer
  match s.listTree cfg tree with
  | .error f => (s, some f)
  | .ok s =>
    let resolution := Gatt.resolve tree
    let s := s.onLink fun l => resolution.records.foldl (fun l r => l.record cfg r) l
    match resolution.result with
    | .error f => (s, some f)
    | .ok handles =>
      let s := { s with handleMap := some handles }
      let s := s.showHandles cfg handles
      match cfg.mode with
      | .error f => (s, some f)
      | .ok mode => (s.becomeReady cfg env session mode handles, none)

/-- The end of discovery.  After a failure the connection stays open; its loss, or the limit
of discovery, still tears it down. -/
def resumeDiscovering (s : Supervisor δ) (cfg : Settings δ) (env : Surroundings)
    (n generation session : Nat) (reading : Except Failure (Option Gatt.Tree)) : Supervisor δ :=
  match Gatt.discovered reading with
  | .error f =>
    let s :=
      if f.isTransport then
        s.say cfg .error ("GATT discovery failed on " ++ cfg.address ++ ": " ++ f.message)
      else s.complain cfg ("Unexpected error during discovery on " ++ cfg.address) f
    s.finish (.attempt n) .done
  | .ok tree =>
    if s.machine.isCurrent generation then
      finishWith (.attempt n) (s.setUp cfg env session tree)
    else s.finish (.attempt n) .done

end Supervisor

end SensorLink
