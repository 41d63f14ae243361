/-
# Binary64 numbers as exact values

A finite double is `± significand · 2 ^ exponent`.  This module takes doubles
apart into that form, rounds an exact quotient to the nearest double or finds
the doubles around it, and raises a double to an integral power.  A power is one
of the two doubles around the exact value; the machine's own power decides which.
-/

namespace SensorLink.Decimal

/-- Divide and round to the nearest integer; a tie goes to the even neighbour. -/
def roundDiv (num den : Nat) : Nat :=
  let low := num / den
  let rest := num % den
  if 2 * rest < den then low
  else if den < 2 * rest then low + 1
  else low + low % 2

/-- Rounding a quotient moves it by at most half a unit. -/
theorem roundDiv_within {num den : Nat} (positive : 0 < den) :
    2 * (roundDiv num den * den) ≤ 2 * num + den ∧
      2 * num ≤ 2 * (roundDiv num den * den) + den := by
  have split := Nat.div_add_mod num den
  have small := Nat.mod_lt num positive
  have parity := Nat.mod_two_eq_zero_or_one (num / den)
  have expand : (num / den + 1) * den = den * (num / den) + den := by
    rw [Nat.add_mul, Nat.mul_comm, Nat.one_mul]
  have commute : num / den * den = den * (num / den) := Nat.mul_comm _ _
  simp only [roundDiv]
  split
  · omega
  · split
    · omega
    · rcases parity with even | odd
      · rw [even, Nat.add_zero]; omega
      · rw [odd]; omega

/-- Dividing a multiple is exact. -/
theorem roundDiv_mul {den : Nat} (positive : 0 < den) (n : Nat) :
    roundDiv (n * den) den = n := by
  simp [roundDiv, Nat.mul_div_cancel n positive, positive]

/-- The size of a double, without its sign. -/
inductive Magnitude where
  /-- The value `significand · 2 ^ exponent`. -/
  | finite (significand : Nat) (exponent : Int)
  | infinite
  | notANumber
  deriving DecidableEq, Repr

namespace Binary64

/-- Whether the sign bit is set. -/
def isNegative (x : Float) : Bool :=
  Nat.pow 2 63 ≤ x.toBits.toNat

/-- The exact size of a double. -/
def magnitude (x : Float) : Magnitude :=
  let bits := x.toBits.toNat % Nat.pow 2 63
  let field := bits / Nat.pow 2 52
  let fraction := bits % Nat.pow 2 52
  if field = 2047 then (if fraction = 0 then .infinite else .notANumber)
  else if field = 0 then .finite fraction (-1074)
  else .finite (fraction + Nat.pow 2 52) (Int.ofNat field - 1075)

/-- Whether a double is neither infinite nor NaN. -/
def isFinite (x : Float) : Bool :=
  match magnitude x with
  | .finite _ _ => true
  | _ => false

/-- Whether a double is NaN. -/
def isNotANumber (x : Float) : Bool :=
  magnitude x == .notANumber

/-- Positive infinity. -/
def infinity : Float :=
  Float.ofBits 0x7ff0000000000000

/-- The quiet NaN with a clear sign bit. -/
def notANumber : Float :=
  Float.ofBits 0x7ff8000000000000

/-- The double with the same size and the opposite sign. -/
def negate (x : Float) : Float :=
  Float.ofBits (x.toBits ^^^ 0x8000000000000000)

/-- The position of the highest set bit, counted from one; zero for zero. -/
def bitLength (n : Nat) : Nat :=
  if n = 0 then 0 else n.log2 + 1

/-- A positive quotient in the form `num / den · 2 ^ exponent` whose integral part `num / den`
has the significand's length, or whose exponent is the least one. -/
structure Aligned where
  num : Nat
  den : Nat
  exponent : Int

/-- Bring `num / den · 2 ^ scale` into that form. -/
def align (num den : Nat) (scale : Int) : Aligned :=
  let guess : Int := bitLength num - bitLength den + scale - 53
  let low : Int := max guess (-1074)
  let shift : Int := scale - low
  let scaled := if 0 ≤ shift then (num <<< shift.toNat, den) else (num, den <<< (-shift).toNat)
  if scaled.1 < Nat.pow 2 53 * scaled.2 then ⟨scaled.1, scaled.2, low⟩
  else ⟨scaled.1, 2 * scaled.2, low + 1⟩

/-- The bits of the double `significand · 2 ^ exponent`, before the exponent is checked against
the format's limit. -/
def bitsOf (significand : Nat) (exponent : Int) : Nat :=
  (exponent + 1074).toNat * Nat.pow 2 52 + significand

/-- The bits of infinity. -/
def infinityBits : Nat := 2047 * Nat.pow 2 52

/-- The double with these bits; bits beyond those of infinity count as infinity's. -/
def ofBits (bits : Nat) : Float :=
  if infinityBits ≤ bits then infinity else Float.ofBits (UInt64.ofNat bits)

/-- The double nearest to `num / den · 2 ^ scale`; ties go to the even significand, and a
value beyond the largest double by half a unit or more is infinite. -/
def ofQuotient (num den : Nat) (scale : Int) : Float :=
  let size : Int := bitLength num - bitLength den + scale
  if num = 0 ∨ den = 0 ∨ size < -1080 then 0
  else if 1026 < size then infinity
  else
    let a := align num den scale
    ofBits (bitsOf (roundDiv a.num a.den) a.exponent)

/-- The greatest double that is at most `num / den · 2 ^ scale`, and the least that is at least
that. -/
def around (num den : Nat) (scale : Int) : Float × Float :=
  let size : Int := bitLength num - bitLength den + scale
  if num = 0 ∨ den = 0 then (0, 0)
  else if size < -1080 then (0, ofBits 1)
  else if 1026 < size then (ofBits (infinityBits - 1), infinity)
  else
    let a := align num den scale
    let below := bitsOf (a.num / a.den) a.exponent
    (ofBits below, ofBits (if a.num % a.den = 0 then below else below + 1))

/-- The double nearest to `digits · 10 ^ exponent`. -/
def ofDecimal (digits : Nat) (exponent : Int) : Float :=
  let places : Int := (Nat.toDigits 10 digits).length + exponent
  if digits = 0 ∨ places < -400 then 0
  else if 400 < places then infinity
  else if 0 ≤ exponent then ofQuotient (digits * Nat.pow 10 exponent.toNat) 1 0
  else ofQuotient digits (Nat.pow 10 (-exponent).toNat) 0

/-- The double nearest to an integer. -/
def ofInt (n : Int) : Float :=
  let size := ofQuotient n.natAbs 1 0
  if n < 0 then negate size else size

/-- The integer a double rounds to, a tie going to the even neighbour; absent for infinities
and NaN. -/
def round? (x : Float) : Option Int :=
  match magnitude x with
  | .finite m q =>
    let size := if 0 ≤ q then m <<< q.toNat else roundDiv m (1 <<< (-q).toNat)
    some (if isNegative x then -size else size)
  | _ => none

/-- A positive quantity `significand · 2 ^ exponent`, kept to a fixed number of leading bits. -/
structure Scaled where
  significand : Nat
  exponent : Int

/-- The number of leading bits that products keep. -/
def Scaled.precision : Nat := 512

/-- Drop the bits below the precision. -/
def Scaled.clip (s : Scaled) : Scaled :=
  let extra := bitLength s.significand - precision
  ⟨s.significand >>> extra, s.exponent + extra⟩

/-- The product of two quantities, cut to the precision. -/
def Scaled.mul (a b : Scaled) : Scaled :=
  clip ⟨a.significand * b.significand, a.exponent + b.exponent⟩

/-- The power of a quantity by repeated squaring; `depth` bounds the bits of the exponent. -/
def Scaled.pow (s : Scaled) : (depth : Nat) → Nat → Scaled
  | 0, _ => ⟨1, 0⟩
  | depth + 1, n =>
    if n = 0 then ⟨1, 0⟩
    else
      let half := pow s depth (n / 2)
      let square := half.mul half
      if n % 2 = 1 then square.mul s else square

/-- The integer that stands for `n` among the doubles. -/
def nearestInt (n : Int) : Int :=
  (round? (ofInt n)).getD n

/-- A base of at least one, or NaN, raised to an integral power.  There is no answer when the
base is finite and the power exceeds every double. -/
def power? (base : Float) (n : Int) : Option Float :=
  if n = 0 then some 1
  else
    match magnitude base with
    | .notANumber => some base
    | .infinite => some (if 0 < n then infinity else 0)
    | .finite m q =>
      let exponent := nearestInt n
      let raised := Scaled.pow ⟨m, q⟩ (bitLength exponent.natAbs) exponent.natAbs
      let (num, den, scale) :=
        if 0 < n then (raised.significand, 1, raised.exponent)
        else (1, raised.significand, -raised.exponent)
      if ofQuotient num den scale == infinity then none
      else
        let (below, above) := around num den scale
        some (if Float.pow base (ofInt exponent) ≤ below then below else above)

end Binary64

end SensorLink.Decimal
