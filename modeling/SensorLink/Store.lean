/-
# The store of latest readings

One connectivity flag and one reading per kind.  Values are accepted only while
connected; going offline withdraws every observation but keeps the values.
-/

import SensorLink.Sensor.Reading

namespace SensorLink

open Sensor (Kind PerKind Reading)

/-- The latest reading of every kind, and whether the peripheral is connected. -/
structure Store where
  connected : Bool
  readings : PerKind Reading

namespace Store

/-- Nothing observed, and not connected. -/
def fresh : Store where
  connected := false
  readings := .const ⟨0, false⟩

/-- The reading of a kind. -/
def read (s : Store) (kind : Kind) : Reading :=
  s.readings.get kind

/-- Store an observed value, if connected; the answer says whether it was stored. -/
def write (s : Store) (kind : Kind) (value : Float) : Store × Bool :=
  if s.connected then ({ s with readings := s.readings.set kind ⟨value, true⟩ }, true)
  else (s, false)

/-- Set the connectivity; going offline withdraws every observation. -/
def setConnected (s : Store) (connected : Bool) : Store :=
  if connected then { s with connected := true }
  else ⟨false, s.readings.map fun r => { r with observed := false }⟩

/-- The connectivity and all readings at one point. -/
def snapshot (s : Store) : Bool × PerKind Reading :=
  (s.connected, s.readings)

end Store

end SensorLink
