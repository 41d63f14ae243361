/-
# Hexadecimal text

Lower-case hexadecimal digits, and numbers padded with zeros to a width that
counts the sign.
-/

namespace SensorLink.Text

/-- The value of a hexadecimal digit in either case. -/
def hexValue? (c : Char) : Option Nat :=
  if '0' ≤ c ∧ c ≤ '9' then some (c.toNat - 48)
  else if 'a' ≤ c ∧ c ≤ 'f' then some (c.toNat - 87)
  else if 'A' ≤ c ∧ c ≤ 'F' then some (c.toNat - 55)
  else none

/-- The hexadecimal digits of a number, most significant first. -/
def hexDigits (n : Nat) : List Char :=
  Nat.toDigits 16 n

/-- Fill a text with leading zeros up to a width. -/
def zeroFill (width : Nat) (digits : List Char) : List Char :=
  List.replicate (width - digits.length) '0' ++ digits

/-- Hexadecimal digits padded with zeros; a minus sign takes one place of the width. -/
def hexPadded (width : Nat) (n : Int) : String :=
  if n < 0 then String.ofList ('-' :: zeroFill (width - 1) (hexDigits n.natAbs))
  else String.ofList (zeroFill width (hexDigits n.natAbs))

/-- The text of an attribute handle: `0x` and at least four hexadecimal places. -/
def handleText (handle : Int) : String :=
  "0x" ++ hexPadded 4 handle

end SensorLink.Text
