/-
# Payloads

A characteristic's value starts with a little-endian integer of the kind's
width, in hundredths of the kind's unit; only the temperature is signed.  Octets
after the integer are ignored.
-/

import SensorLink.Failure

namespace SensorLink.Sensor

/-- The number written by octets, least significant first. -/
def littleEndian : List UInt8 → Nat
  | [] => 0
  | b :: rest => b.toNat + 256 * littleEndian rest

/-- The lowest octets of a number, least significant first. -/
def littleEndianBytes : (width : Nat) → Nat → List UInt8
  | 0, _ => []
  | width + 1, n => UInt8.ofNat (n % 256) :: littleEndianBytes width (n / 256)

namespace Kind

/-- The octets that a value takes. -/
def width : Kind → Nat
  | temperature => 2
  | pressure => 4
  | humidity => 2

/-- Whether values may be negative. -/
def isSigned : Kind → Bool
  | temperature => true
  | _ => false

/-- The integers that a payload can hold. -/
def InRange (kind : Kind) (n : Int) : Prop :=
  if kind.isSigned then
    -(Nat.pow 2 (8 * kind.width - 1) : Int) ≤ n ∧ n < Nat.pow 2 (8 * kind.width - 1)
  else 0 ≤ n ∧ n < Nat.pow 2 (8 * kind.width)

instance (kind : Kind) (n : Int) : Decidable (kind.InRange n) := by
  unfold InRange
  infer_instance

/-- The octets of an integer, in two's complement. -/
def encode (kind : Kind) (n : Int) : List UInt8 :=
  littleEndianBytes kind.width (n % Nat.pow 2 (8 * kind.width)).toNat

/-- The integer at the start of a payload that is long enough. -/
def hundredths (kind : Kind) (payload : List UInt8) : Int :=
  let n := littleEndian (payload.take kind.width)
  if kind.isSigned && Nat.pow 2 (8 * kind.width - 1) ≤ n then n - Nat.pow 2 (8 * kind.width)
  else n

/-- The value of a payload in the kind's unit. -/
def decode (kind : Kind) (payload : List UInt8) : Except Failure Float :=
  if payload.length < kind.width then
    .error (.payloadTooShort kind kind.width payload.length)
  else .ok (Float.ofInt (kind.hundredths payload) / 100)

end Kind

end SensorLink.Sensor
