/-
# Shortest decimals

The shortest decimal that lies within the interval of reals rounding to a given
double, and among the decimals of that length the one nearest to the double.
The search tries one to seventeen digits and tests, for each count, the two
neighbours of the double on that decimal grid, in exact arithmetic.
-/

import SensorLink.Decimal.Binary64

namespace SensorLink.Decimal

/-- A positive rational. -/
structure Ratio where
  num : Nat
  den : Nat

/-- The rational `significand · 2 ^ exponent`. -/
def Ratio.ofScaled (significand : Nat) (exponent : Int) : Ratio :=
  if 0 ≤ exponent then ⟨significand <<< exponent.toNat, 1⟩
  else ⟨significand, 1 <<< (-exponent).toNat⟩

/-- The rational times a power of ten. -/
def Ratio.timesTen (r : Ratio) (exponent : Int) : Ratio :=
  if 0 ≤ exponent then ⟨r.num * Nat.pow 10 exponent.toNat, r.den⟩
  else ⟨r.num, r.den * Nat.pow 10 (-exponent).toNat⟩

/-- The integer `e` with `10 ^ (e - 1) ≤ r < 10 ^ e`. -/
def Ratio.decimalPoint (r : Ratio) : Int :=
  if r.den ≤ r.num then (Nat.toDigits 10 (r.num / r.den)).length
  else
    let places := (Nat.toDigits 10 (r.den / r.num)).length
    if r.num * Nat.pow 10 (places - 1) = r.den then 2 - places else 1 - places

/-- The reals that round to one double, as bounds in quarters of its last place. -/
structure RoundingInterval where
  low : Ratio
  high : Ratio
  closed : Bool

/-- The interval of the double `significand · 2 ^ exponent`.  Below a power of two the
neighbour is only half as far away, except at the smallest exponent. -/
def RoundingInterval.of (significand : Nat) (exponent : Int) : RoundingInterval :=
  let below := if significand = Nat.pow 2 52 ∧ -1074 < exponent then 1 else 2
  { low := .ofScaled (4 * significand - below) (exponent - 2)
    high := .ofScaled (4 * significand + 2) (exponent - 2)
    closed := significand % 2 == 0 }

/-- Whether the decimal `digits · 10 ^ exponent` lies in the interval. -/
def RoundingInterval.contains (i : RoundingInterval) (digits : Nat) (exponent : Int) : Bool :=
  let low := i.low.timesTen (-exponent)
  let high := i.high.timesTen (-exponent)
  if i.closed then low.num ≤ digits * low.den && digits * high.den ≤ high.num
  else low.num < digits * low.den && digits * high.den < high.num

/-- A decimal `digits · 10 ^ exponent`. -/
structure Digits where
  digits : Nat
  exponent : Int
  deriving DecidableEq, Repr

/-- The decimal of exactly `count` digits in the interval that is nearest to the value, if
there is one. -/
def nearestWith (value : Ratio) (i : RoundingInterval) (point : Int) (count : Nat) :
    Option Digits :=
  let exponent := point - count
  let scaled := value.timesTen (-exponent)
  let low := scaled.num / scaled.den
  let lowFits := i.contains low exponent
  let highFits := i.contains (low + 1) exponent
  let rest := 2 * (scaled.num % scaled.den)
  let preferLow := rest < scaled.den || (rest == scaled.den && low % 2 == 0)
  if lowFits && (preferLow || !highFits) then some ⟨low, exponent⟩
  else if highFits then some ⟨low + 1, exponent⟩
  else none

/-- The shortest decimal that reads back as the positive double
`significand · 2 ^ exponent`. -/
def shortest (significand : Nat) (exponent : Int) : Digits :=
  let value := Ratio.ofScaled significand exponent
  let point := value.decimalPoint
  let i := RoundingInterval.of significand exponent
  ((List.range 17).findSome? fun n => nearestWith value i point (n + 1)).getD ⟨0, 0⟩

/-- Move trailing zeros of the digits into the exponent; `fuel` bounds their number. -/
def Digits.normalize : (fuel : Nat) → Digits → Digits
  | 0, d => d
  | fuel + 1, d =>
    if d.digits ≠ 0 ∧ d.digits % 10 = 0 then normalize fuel ⟨d.digits / 10, d.exponent + 1⟩ else d

/-- One tenth, as the double nearest to it. -/
example : shortest 7205759403792794 (-56) = ⟨1, -1⟩ := by
  decide +kernel

/-- The smallest positive double. -/
example : shortest 1 (-1074) = ⟨5, -324⟩ := by
  decide +kernel

end SensorLink.Decimal
