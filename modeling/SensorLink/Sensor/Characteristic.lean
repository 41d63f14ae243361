/-
# Characteristics of the sensing service

The identifiers of the environmental sensing service and of its three
characteristics, and the kind that an identifier in any spelling denotes.
-/

import SensorLink.Bluetooth.Uuid
import SensorLink.Sensor.Kind

namespace SensorLink.Sensor

/-- The normal form of the environmental sensing service's identifier. -/
def serviceUuid : String :=
  Bluetooth.ofAssignedNumber 0x181a

/-- The normal form of the identifier of a kind's characteristic. -/
def Kind.uuid (kind : Kind) : String :=
  Bluetooth.ofAssignedNumber kind.assignedNumber

/-- The kind whose characteristic has this identifier, in any spelling. -/
def Kind.ofUuid? (spelling : String) : Option Kind :=
  (Bluetooth.normalForm? spelling).bind fun normal => Kind.all.find? (·.uuid == normal)

end SensorLink.Sensor
