/-
# Arming and disarming

An ingestion is armed once, serves one connection and is disarmed when the
connection ends.  Disarming takes back its timer, cancels what it waits for and
forgets the handles, which belong to the connection.
-/

import SensorLink.Ingestion.Notification
import SensorLink.Ingestion.Polling

namespace SensorLink

namespace Link

variable {δ : Type}

/-- Start delivering values into the store. -/
def arm (l : Link δ) (cfg : Settings δ) (i : Nat) : Link δ :=
  match l.ingestions[i]? with
  | some g =>
    match g.strategy with
    | .notify s => l.armSubscriptions cfg i g s
    | .poll _ => l.armPolling i
  | none => l

/-- The tasks that an ingestion waits for. -/
def Ingestion.pendingTasks (g : Ingestion δ) : List TaskId :=
  match g.strategy with
  | .notify s => s.pending
  | .poll p => Sensor.Kind.all.filterMap p.inFlight.get

/-- An ingestion after it was disarmed. -/
def Ingestion.disarmed (g : Ingestion δ) : Ingestion δ :=
  { g with
    armed := false
    handles := .empty
    strategy := match g.strategy with
      | .notify s => .notify { s with pending := [] }
      | .poll p => .poll { p with timer := none, inFlight := .const none } }

/-- Stop an ingestion. -/
def disarm (l : Link δ) (i : Nat) : Link δ :=
  match l.ingestions[i]? with
  | some g =>
    let l := match g.strategy with
      | .poll { timer := some timer, .. } => l.onLoop (·.unschedule timer)
      | _ => l
    let l := g.pendingTasks.foldl (fun l task => l.onLoop (·.cancel task)) l
    l.onIngestion i .disarmed
  | none => l

end Link

end SensorLink
