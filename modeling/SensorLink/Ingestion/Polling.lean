/-
# Ingestion by polling

Arming starts a series of ticks, one interval apart.  While the connection is
ready, a tick reads every located characteristic whose previous read has
completed.  A completed read is taken in, unless the ingestion no longer serves
the current connection.
-/

import SensorLink.Ingestion.Intake

namespace SensorLink

namespace Link

open Gatt (Call Ending Entry)

variable {δ : Type}

/-- Set the timer of the next tick. -/
def scheduleTick (l : Link δ) (i : Nat) (wait : Wait δ) : Link δ :=
  match l.ingestions[i]? with
  | some { strategy := .poll p, .. } =>
    let timer := TimerId.tick i p.scheduled
    let l := l.onIngestion i fun g =>
      { g with strategy := .poll { p with timer := some timer, scheduled := p.scheduled + 1 } }
    l.onLoop (·.schedule timer wait)
  | _ => l

/-- Arm an ingestion by polling. -/
def armPolling (l : Link δ) (i : Nat) : Link δ :=
  (l.onIngestion i fun g => { g with armed := true }).scheduleTick i .soon

/-- Change the polling state of an ingestion. -/
def Ingestion.onPolling (f : Polling δ → Polling δ) (g : Ingestion δ) : Ingestion δ :=
  match g.strategy with
  | .poll p => { g with strategy := .poll (f p) }
  | .notify _ => g

/-- Read one characteristic in a tick, unless its previous read is still pending. -/
def pollEntry (l : Link δ) (cfg : Settings δ) (i session tick : Nat) (p : Polling δ)
    (e : Entry) : Link δ :=
  match p.inFlight.get e.kind with
  | some _ => l.note cfg .debug ("Previous " ++ e.kind.name ++ " read still pending")
  | none =>
    let task := TaskId.read i e.kind tick
    let l := l.onLoop (·.spawn task (.readStart session e.handle))
    l.onIngestion i <| Ingestion.onPolling fun p =>
      { p with inFlight := p.inFlight.set e.kind (some task) }

/-- A tick of an armed ingestion. -/
def pollOnce (l : Link δ) (cfg : Settings δ) (i : Nat) (g : Ingestion δ) (p : Polling δ) :
    Link δ :=
  if l.machine.isReady && l.machine.isCurrent g.generation then
    g.handles.entries.foldl (fun l e => l.pollEntry cfg i g.session p.ticks p e) l
  else l.note cfg .debug "Poll tick skipped: connection not ready"

/-- The timer of a tick goes off. -/
def tick (l : Link δ) (cfg : Settings δ) (i : Nat) : Link δ :=
  match l.ingestions[i]? with
  | some g =>
    match g.strategy with
    | .poll p =>
      let l := l.onIngestion i (Ingestion.onPolling fun p => { p with timer := none })
      if g.armed then
        let l := l.onIngestion i (Ingestion.onPolling fun p => { p with ticks := p.ticks + 1 })
        (l.pollOnce cfg i g { p with ticks := p.ticks + 1 }).scheduleTick i (.delay p.interval)
      else l
    | .notify _ => l
  | none => l

/-- Forget a read that has completed, if it is still the one in flight. -/
def Ingestion.settleRead (kind : Sensor.Kind) (task : TaskId) (g : Ingestion δ) : Ingestion δ :=
  g.onPolling fun p =>
    if p.inFlight.get kind = some task then { p with inFlight := p.inFlight.set kind none } else p

/-- What follows a read's end.  The failure of the listener, if it fails, is left to the
caller. -/
def completeRead (l : Link δ) (cfg : Settings δ) (env : Surroundings) (i : Nat) (task : TaskId)
    (kind : Sensor.Kind) (result : Option (Except Failure (List UInt8))) :
    Link δ × Option Failure :=
  let l := l.onIngestion i (Ingestion.settleRead kind task)
  match result with
  | none => (l, none)
  | some result =>
    match l.ingestions[i]? with
    | none => (l, none)
    | some g =>
      if l.isStale g then
        (l.note cfg .debug ("Discarding stale " ++ kind.name ++ " read completion"), none)
      else
        match result with
        | .error f =>
          if f.isTransport then
            (l.note cfg .debug ("Read of " ++ kind.name ++ " failed: " ++ f.message), none)
          else
            (l.record cfg (Journal.unexpected ("Unexpected error reading " ++ kind.name) f), none)
        | .ok payload => l.ingest cfg env i kind payload

/-- Report the failure that left a callback. -/
def report (outcome : Link δ × Option Failure) : Link δ :=
  match outcome.2 with
  | some f => outcome.1.emit (.escaped f)
  | none => outcome.1

/-- The first step of a read. -/
def beginRead (l : Link δ) (cfg : Settings δ) (env : Surroundings) (i : Nat) (kind : Sensor.Kind)
    (tick session : Nat) (handle : Option Int) : Link δ :=
  let task := TaskId.read i kind tick
  let call := Call.read handle
  if l.isReleased session then
    report ((l.onLoop (·.finish task .done)).completeRead cfg env i task kind
      (some (.error (.noClient call.label))))
  else l.request task session call (.reading handle)

/-- The end of a read's call. -/
def resumeRead (l : Link δ) (cfg : Settings δ) (env : Surroundings) (i : Nat) (kind : Sensor.Kind)
    (tick : Nat) (handle : Option Int) (ending : Ending) : Link δ :=
  let task := TaskId.read i kind tick
  let call := Call.read handle
  report ((l.onLoop (·.finish task .done)).completeRead cfg env i task kind
    (ending.result? call (cfg.limitText call)))

end Link

end SensorLink
