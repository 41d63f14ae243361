/-
# Readings

The latest value of a kind, whether it was observed since the last connection,
and the text in which a value is shown.
-/

import SensorLink.Decimal.Style
import SensorLink.Sensor.Kind

namespace SensorLink.Sensor

/-- A value and whether it was observed since the last connection. -/
structure Reading where
  value : Float
  observed : Bool

namespace Kind

/-- The heading of a shown value. -/
def label : Kind → String
  | temperature => "Temperature"
  | pressure => "Pressure"
  | humidity => "Humidity"

/-- The decimal places of a shown value. -/
def places : Kind → Nat
  | temperature => 2
  | pressure => 1
  | humidity => 2

/-- The unit of a shown value. -/
def unit : Kind → String
  | temperature => "°C"
  | pressure => "hPa"
  | humidity => "%RH"

/-- A value with its unit. -/
def showValue (kind : Kind) (value : Float) : String :=
  Decimal.fixed kind.places value ++ " " ++ kind.unit

/-- A value with its heading and unit. -/
def showReading (kind : Kind) (value : Float) : String :=
  kind.label ++ ": " ++ kind.showValue value

end Kind

end SensorLink.Sensor
