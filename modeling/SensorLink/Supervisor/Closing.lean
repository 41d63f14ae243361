/-
# Forced disconnects and shutdown

When discovery exceeds its limit the connection is closed by force, after which
it counts as lost.  A shutdown stops all further attempts, cancels the one in
progress, closes the session in charge and tears everything down.
-/

import SensorLink.Supervisor.Basic

namespace SensorLink

open Connection (State)
open Gatt (Ending)
open Link (Settings Surroundings TaskId)

namespace Supervisor

variable {δ : Type}

/-- The limit of an attempt's discovery is reached. -/
def discoveryExpired (s : Supervisor δ) (cfg : Settings δ) (n generation : Nat) :
    Supervisor δ :=
  let s := { s with discoveryTimer := none }
  if s.machine.isCurrent generation && s.machine.state == .discovering then
    let s := s.say cfg .warning ("Discovery on " ++ cfg.address ++ " made no progress in " ++
      (cfg.discoveryLimit.elim "" cfg.showDelay) ++ "s; dropping connection")
    s.onLink (·.onLoop (·.spawn (.forcedDisconnect n) (.forcedStart s.session generation)))
  else s

/-- The end of a forced disconnect, whether or not the client reported it. -/
def finishForced (s : Supervisor δ) (cfg : Settings δ) (env : Surroundings) (n generation : Nat) :
    Supervisor δ :=
  finishWith (.forcedDisconnect n) (s.connectionLost cfg env generation)

/-- A forced disconnect failed. -/
def forcedFailed (s : Supervisor δ) (cfg : Settings δ) (env : Surroundings) (n generation : Nat)
    (f : Failure) : Supervisor δ :=
  if f.isTransport then
    (s.say cfg .debug ("Disconnect after discovery timeout failed: " ++ f.message)).finishForced
      cfg env n generation
  else s.finish (.forcedDisconnect n) (.failed f)

/-- The first step of a forced disconnect. -/
def startForced (s : Supervisor δ) (cfg : Settings δ) (env : Surroundings) (n : Nat)
    (session : Option Nat) (generation : Nat) : Supervisor δ :=
  match session with
  | none => s.finishForced cfg env n generation
  | some session =>
    if s.isReleased session then
      s.forcedFailed cfg env n generation (.noClient Gatt.Call.disconnect.label)
    else s.await (.forcedDisconnect n) session .disconnect (.forcedClosing generation)

/-- The end of closing the session by force. -/
def resumeForced (s : Supervisor δ) (cfg : Settings δ) (env : Surroundings) (n generation : Nat)
    (ending : Ending) : Supervisor δ :=
  match ending.result? .disconnect (cfg.limitText .disconnect) with
  | none => s.finish (.forcedDisconnect n) .cancelled
  | some (.ok _) => s.finishForced cfg env n generation
  | some (.error f) => s.forcedFailed cfg env n generation f

/-- Begin the first attempt; a supervisor that is running goes on. -/
def start (s : Supervisor δ) (cfg : Settings δ) : Supervisor δ :=
  if s.stopped then { s with stopped := false, failures := 0 }.scheduleConnect cfg.atOnce
  else s

/-- Ask for a shutdown. -/
def requestShutdown (s : Supervisor δ) : Supervisor δ :=
  { s.onLink (·.onLoop (·.spawn (.shutdown s.shutdowns) .shutdownStart)) with
    shutdowns := s.shutdowns + 1 }

/-- Tear everything down at the end of a shutdown. -/
def finishShutdown (s : Supervisor δ) (cfg : Settings δ) (env : Surroundings) (n : Nat) :
    Supervisor δ :=
  ((s.teardown cfg env).say cfg .info
    ("BLE session for " ++ cfg.address ++ " stopped")).finish (.shutdown n) .done

/-- Take the retry timer back and cancel the latest attempt. -/
def stopAttempts (s : Supervisor δ) : Supervisor δ :=
  let s := { s with stopped := true }
  let s := match s.retryTimer with
    | some timer => { s.onLink (·.onLoop (·.unschedule timer)) with retryTimer := none }
    | none => s
  match s.attempt with
  | some n => { s.onLink (·.onLoop (·.cancel (.attempt n))) with attempt := none }
  | none => s

/-- The first step of a shutdown. -/
def startShutdown (s : Supervisor δ) (cfg : Settings δ) (env : Surroundings) (n : Nat) :
    Supervisor δ :=
  let s := s.stopAttempts
  match s.session with
  | none => s.finishShutdown cfg env n
  | some session =>
    let (s, up) := s.checkLink cfg env session
    if up then s.await (.shutdown n) session .disconnect .shutdownClosing
    else s.finishShutdown cfg env n

/-- The end of closing the session in a shutdown. -/
def resumeShutdown (s : Supervisor δ) (cfg : Settings δ) (env : Surroundings) (n : Nat)
    (ending : Ending) : Supervisor δ :=
  match ending.result? .disconnect (cfg.limitText .disconnect) with
  | none => s.finish (.shutdown n) .cancelled
  | some (.ok _) => s.finishShutdown cfg env n
  | some (.error f) =>
    if f.isTransport then
      (s.say cfg .debug ("Disconnect during shutdown failed: " ++ f.message)).finishShutdown
        cfg env n
    else s.finish (.shutdown n) (.failed f)

end Supervisor

end SensorLink
