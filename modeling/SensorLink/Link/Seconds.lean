/-
# Settings in seconds

The settings of a link whose times are seconds: the usual limits of the calls,
the way of ingestion that a name denotes, and the settings that a configuration
makes.
-/

import SensorLink.Device.Config
import SensorLink.Link.Basic
import SensorLink.Retry.Policy

namespace SensorLink.Link

/-- The usual limits of the calls. -/
def usualLimits : Gatt.Limits Float where
  connection := some 20
  transfer := some 10
  notification := some 10
  disconnection := some 5

/-- The usual time between polls. -/
def usualInterval : Float := 2

/-- The way of ingestion with a name; polling needs a positive interval. -/
def Mode.named (name : String) (interval : Float) : Except Failure (Mode Float) :=
  match name with
  | "notify" => .ok .notify
  | "poll" =>
    if interval ≤ 0 then .error (.intervalNotPositive (Decimal.showFloat interval))
    else .ok (.poll interval)
  | name => .error (.unknownMode name)

/-- Notification is usable, and polling is usable unless its interval is at most zero. -/
theorem Mode.exists_named_eq_ok {name : String} {interval : Float} :
    (∃ mode, Mode.named name interval = .ok mode) ↔
      name = "notify" ∨ name = "poll" ∧ ¬interval ≤ 0 := by
  unfold Mode.named
  split
  · simp
  · split
    · simp_all
    · simp_all
  · simp_all

/-- What the owner of a link chooses. -/
structure Choices where
  address : String := ""
  security : String := "low"
  mode : String := "notify"
  interval : Float := usualInterval
  discoveryLimit : Option Float := none
  schedule : Retry.Schedule := ⟨Retry.defaultInitial, Retry.defaultInitial, Retry.defaultBackoff⟩
  limits : Gatt.Limits Float := usualLimits
  threshold : Journal.Level := .debug

/-- The settings that choices make. -/
def Choices.settings (c : Choices) : Settings Float where
  address := c.address
  security := c.security
  modeName := c.mode
  mode := Mode.named c.mode c.interval
  limits := c.limits
  discoveryLimit := c.discoveryLimit
  retryDelay failures := c.schedule.delay failures
  atOnce := 0
  showDelay := Decimal.fixed 1
  threshold := c.threshold

/-- The choices that a configuration makes. -/
def Choices.ofConfig (c : Device.Config) : Except Retry.PolicyError Choices := do
  let schedule ← Retry.Schedule.fixed c.reconnectDelay
  return { address := c.address, security := c.security, mode := c.ingestion,
           interval := c.pollInterval, discoveryLimit := c.discoveryTimeout, schedule }

end SensorLink.Link
