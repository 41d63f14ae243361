/-
# Texts of doubles

Three ways to write a double.  The round-trip text has the fewest digits that
read back, in positional form while its decimal point stays near the digits and
in exponent form beyond.  The brief text has the same forms, but no more than six
digits.  The fixed text has a given number of places.  The last two are rounded
once from the exact binary value.
-/

import SensorLink.Decimal.Shortest
import SensorLink.Text.Hexadecimal

namespace SensorLink.Decimal

/-- The decisions of a round-trip or brief text. -/
structure Style where
  /-- The least decimal exponent written positionally. -/
  leastPositional : Int
  /-- The first decimal exponent written with an exponent again. -/
  firstScientific : Int
  /-- What follows the digits of an integral value in positional form. -/
  integralTail : List Char
  /-- The least number of digits of the exponent. -/
  exponentWidth : Nat
  infinite : String
  notANumber : String

/-- Exponents from `-4` to `15` are positional, an integral value ends in `.0`, an exponent
has a sign and at least two digits. -/
def Style.standard : Style where
  leastPositional := -4
  firstScientific := 16
  integralTail := ['.', '0']
  exponentWidth := 2
  infinite := "inf"
  notANumber := "nan"

/-- The spellings that data interchange uses for the values that are not finite. -/
def Style.interchange : Style :=
  { Style.standard with infinite := "Infinity", notANumber := "NaN" }

/-- The decimal digits of a number. -/
def digitsOf (n : Nat) : List Char :=
  Nat.toDigits 10 n

/-- Positional text of `0.d₁d₂… · 10 ^ point`. -/
def positional (style : Style) (ds : List Char) (point : Int) : List Char :=
  if point ≤ 0 then '0' :: '.' :: (List.replicate (-point).toNat '0' ++ ds)
  else if ds.length ≤ point.toNat then
    ds ++ List.replicate (point.toNat - ds.length) '0' ++ style.integralTail
  else ds.take point.toNat ++ '.' :: ds.drop point.toNat

/-- Exponent text of `d₁.d₂… · 10 ^ exponent`. -/
def scientific (style : Style) (ds : List Char) (exponent : Int) : List Char :=
  let mantissa := match ds with
    | [] => []
    | [d] => [d]
    | d :: rest => d :: '.' :: rest
  let sign := if exponent < 0 then '-' else '+'
  mantissa ++ 'e' :: sign :: Text.zeroFill style.exponentWidth (digitsOf exponent.natAbs)

/-- The text of a positive decimal. -/
def Style.write (style : Style) (d : Digits) : List Char :=
  let d := d.normalize 17
  let ds := digitsOf d.digits
  let exponent := d.exponent + ds.length - 1
  if style.leastPositional ≤ exponent ∧ exponent < style.firstScientific then
    positional style ds (exponent + 1)
  else scientific style ds exponent

/-- The text of a double whose significand and exponent become a decimal in some way. -/
def Style.showBy (style : Style) (decimal : Nat → Int → Digits) (x : Float) : String :=
  match Binary64.magnitude x with
  | .notANumber => style.notANumber
  | .infinite => if Binary64.isNegative x then "-" ++ style.infinite else style.infinite
  | .finite m q =>
    let body := if m = 0 then '0' :: style.integralTail else style.write (decimal m q)
    String.ofList (if Binary64.isNegative x then '-' :: body else body)

/-- The round-trip text of a double. -/
def Style.show (style : Style) (x : Float) : String :=
  style.showBy shortest x

/-- The standard round-trip text. -/
def showFloat (x : Float) : String :=
  Style.standard.show x

/-- The most digits of a brief text. -/
def briefDigits : Nat := 6

/-- Exponents from `-4` to `5` are positional, and an integral value has no point. -/
def Style.brief : Style :=
  { Style.standard with firstScientific := briefDigits, integralTail := [] }

/-- The positive double `significand · 2 ^ exponent` with a number of digits; a tie goes to the
even neighbour. -/
def roundToDigits (count : Nat) (significand : Nat) (exponent : Int) : Digits :=
  let value := Ratio.ofScaled significand exponent
  let unit : Int := value.decimalPoint - count
  let scaled := value.timesTen (-unit)
  ⟨roundDiv scaled.num scaled.den, unit⟩

/-- The brief text of a double. -/
def showBrief (x : Float) : String :=
  Style.brief.showBy (roundToDigits briefDigits) x

/-- The size `significand · 2 ^ exponent` in units of the last of `places` decimal places. -/
def roundToPlaces (places : Nat) (significand : Nat) (exponent : Int) : Nat :=
  let scaled := significand * Nat.pow 10 places
  if 0 ≤ exponent then scaled <<< exponent.toNat else roundDiv scaled (1 <<< (-exponent).toNat)

/-- A number of units of the last place, with the point put in. -/
def placePoint (places : Nat) (units : Nat) : List Char :=
  let ds := Text.zeroFill (places + 1) (digitsOf units)
  let whole := ds.take (ds.length - places)
  if places = 0 then whole else whole ++ '.' :: ds.drop (ds.length - places)

/-- The text of a double with a fixed number of places; a tie goes to the even neighbour. -/
def fixed (places : Nat) (x : Float) : String :=
  match Binary64.magnitude x with
  | .notANumber => "nan"
  | .infinite => if Binary64.isNegative x then "-inf" else "inf"
  | .finite m q =>
    let body := placePoint places (roundToPlaces places m q)
    String.ofList (if Binary64.isNegative x then '-' :: body else body)

end SensorLink.Decimal
