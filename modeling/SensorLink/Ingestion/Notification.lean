/-
# Ingestion by notification

Arming subscribes to every located characteristic.  A notification is taken in
under the kind that the peripheral's tree gives its handle, unless the ingestion
no longer serves the current connection.
-/

import SensorLink.Gatt.Resolution
import SensorLink.Ingestion.Intake

namespace SensorLink

namespace Link

open Gatt (Call Ending Entry)

variable {δ : Type}

/-- Subscribe to one characteristic. -/
def subscribe (l : Link δ) (cfg : Settings δ) (i session round : Nat) (e : Entry) : Link δ :=
  let l := l.noteHandle cfg .info "Registering notify for handle " e.handle ""
  l.onLoop (·.spawn (.subscription i e.kind round) (.subscriptionStart session e.handle))

/-- Arm an ingestion by notification. -/
def armSubscriptions (l : Link δ) (cfg : Settings δ) (i : Nat) (g : Ingestion δ)
    (s : Subscriptions) : Link δ :=
  let tasks := g.handles.entries.map fun e => TaskId.subscription i e.kind s.rounds
  let l := l.onIngestion i fun g =>
    { g with armed := true, strategy := .notify ⟨s.pending ++ tasks, s.rounds + 1⟩ }
  g.handles.entries.foldl (fun l e => l.subscribe cfg i g.session s.rounds e) l

/-- Forget a subscription that has completed. -/
def Ingestion.settleSubscription (task : TaskId) (g : Ingestion δ) : Ingestion δ :=
  match g.strategy with
  | .notify s => { g with strategy := .notify { s with pending := s.pending.filter (· != task) } }
  | .poll _ => g

/-- What follows a subscription's end. -/
def completeSubscription (l : Link δ) (cfg : Settings δ) (i : Nat) (task : TaskId)
    (kind : Sensor.Kind) (handle : Option Int) (result : Option (Except Failure (List UInt8))) :
    Link δ :=
  let l := l.onIngestion i (Ingestion.settleSubscription task)
  match result with
  | none => l
  | some (.ok _) => l.note cfg .debug ("Notifications enabled for " ++ kind.name)
  | some (.error f) =>
    if f.isTransport then
      l.noteHandle cfg .warning ("Failed to register notify handler for " ++ kind.name ++ " (")
        handle ("): " ++ f.message)
    else
      l.record cfg (Journal.unexpected ("Unexpected error registering notify for " ++ kind.name) f)

/-- The first step of a subscription. -/
def beginSubscription (l : Link δ) (cfg : Settings δ) (i : Nat) (kind : Sensor.Kind)
    (round session : Nat) (handle : Option Int) : Link δ :=
  let task := TaskId.subscription i kind round
  let call := Call.subscribe handle
  if l.isReleased session then
    (l.onLoop (·.finish task .done)).completeSubscription cfg i task kind handle
      (some (.error (.noClient call.label)))
  else l.request task session call (.subscribing handle)

/-- The end of a subscription's call. -/
def resumeSubscription (l : Link δ) (cfg : Settings δ) (i : Nat) (kind : Sensor.Kind)
    (round : Nat) (handle : Option Int) (ending : Ending) : Link δ :=
  let task := TaskId.subscription i kind round
  let call := Call.subscribe handle
  (l.onLoop (·.finish task .done)).completeSubscription cfg i task kind handle
    (ending.result? call (cfg.limitText call))

/-- Look a handle up in a session's tree; a session without a client finds nothing. -/
def lookUp (l : Link δ) (cfg : Settings δ) (env : Surroundings) (session : Nat)
    (handle : Option Int) : Link δ × Option Gatt.Characteristic :=
  if l.isReleased session then (l, none)
  else
    let found := env.lookup session handle
    let l := if found.supersedes then l.transition cfg .disconnected none else l
    (l, found.characteristic)

/-- A notification arrives for an ingestion.  A failure is left to the caller. -/
def notified (l : Link δ) (cfg : Settings δ) (env : Surroundings) (i : Nat) (handle : Option Int)
    (payload : List UInt8) : Link δ × Option Failure :=
  match l.ingestions[i]? with
  | none => (l, none)
  | some g =>
    if l.isStale g then
      (l.noteHandle cfg .debug "Ignoring notification for stale handle " handle "", none)
    else
      match l.lookUp cfg env g.session handle with
      | (l, none) =>
        (l.noteHandle cfg .debug "Notification from unknown handle " handle "", none)
      | (l, some c) =>
        match Gatt.requireUuid c.uuid with
        | .error f => (l, some f)
        | .ok u =>
          match Sensor.Kind.ofUuid? u.spelling with
          | none => (l, none)
          | some kind => l.ingest cfg env i kind payload

end Link

end SensorLink
