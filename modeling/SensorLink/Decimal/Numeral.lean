/-
# Reading numerals

The texts that denote an integer or a double.  Decimal digits of every script
count as their digits, blanks around the numeral are ignored, and one underscore
may stand between two digits.
-/

import SensorLink.Decimal.Binary64
import SensorLink.Text.Blank
import SensorLink.Text.Digit
import SensorLink.Text.Hexadecimal

namespace SensorLink.Decimal

open SensorLink.Text (isBlank digitValue? hexValue? stripBy)

/-- The blanks of ASCII that may surround a numeral: the space and the controls from the
tab to the carriage return. -/
def isPlainBlank (c : Char) : Bool :=
  c = ' ' || (9 ≤ c.toNat && c.toNat ≤ 13)

/-- One character of a numeral in ASCII: other digits become ASCII digits, other blanks the
space, and any other character a question mark, which no numeral contains. -/
def plainChar (c : Char) : Char :=
  if c.toNat < 128 then c
  else
    match digitValue? c with
    | some d => Char.ofNat (d + 48)
    | none => if isBlank c then ' ' else '?'

/-- The numeral's characters in ASCII, without the blanks around them. -/
def plainNumeral (s : String) : List Char :=
  stripBy isPlainBlank (s.toList.map plainChar)

/-- Remove underscores, each of which must stand between two digits. -/
def dropSeparators (isDigit : Char → Bool) : (afterDigit : Bool) → List Char → Option (List Char)
  | _, [] => some []
  | afterDigit, c :: rest =>
    if c = '_' then
      if afterDigit && rest.head?.any isDigit then dropSeparators isDigit false rest else none
    else (dropSeparators isDigit (isDigit c) rest).map (c :: ·)

/-- Split an optional sign off; `true` means negative. -/
def splitSign : List Char → Bool × List Char
  | '-' :: rest => (true, rest)
  | '+' :: rest => (false, rest)
  | cs => (false, cs)

/-- The number written by digits of a radix, if every character is one. -/
def digitsValue? (digit? : Char → Option Nat) (radix : Nat) : (acc : Nat) → List Char → Option Nat
  | acc, [] => some acc
  | acc, c :: rest => (digit? c).bind fun d => digitsValue? digit? radix (acc * radix + d) rest

/-- The value of an ASCII decimal digit. -/
def plainDigit? (c : Char) : Option Nat :=
  if c.isDigit then some (c.toNat - 48) else none

/-- Digits with separators: not empty, and starting with a digit. -/
def separatedValue? (digit? : Char → Option Nat) (radix : Nat) (cs : List Char) : Option Nat :=
  if cs.isEmpty then none
  else (dropSeparators (digit? · |>.isSome) false cs).bind (digitsValue? digit? radix 0)

/-- The most digits of an integer's decimal numeral, those of leading zeros included. -/
def mostIntegerDigits : Nat := 4300

/-- The integer that a decimal numeral denotes; one with too many digits denotes none. -/
def readInteger? (s : String) : Option Int :=
  let (negative, body) := splitSign (plainNumeral s)
  if mostIntegerDigits < body.countP Char.isDigit then none
  else (separatedValue? plainDigit? 10 body).map fun n => if negative then -n else n

/-- Drop the mark `0x` of a hexadecimal numeral, and one underscore after it. -/
def dropHexMark : List Char → List Char
  | '0' :: x :: rest =>
    if x = 'x' ∨ x = 'X' then
      match rest with
      | '_' :: digits => digits
      | digits => digits
    else '0' :: x :: rest
  | cs => cs

/-- The integer that a hexadecimal numeral denotes. -/
def readHexadecimal? (s : String) : Option Int :=
  let (negative, body) := splitSign (plainNumeral s)
  (separatedValue? hexValue? 16 (dropHexMark body)).map fun n => if negative then -n else n

/-- The names of the values that are not finite, in lower case. -/
def namedValue? (cs : List Char) : Option Float :=
  match String.ofList (cs.map Char.toLower) with
  | "inf" | "infinity" => some Binary64.infinity
  | "nan" => some Binary64.notANumber
  | _ => none

/-- The exponent after the letter `e`. -/
def exponent? (cs : List Char) : Option Int :=
  let (negative, digits) := splitSign cs
  if digits.isEmpty then none
  else (digitsValue? plainDigit? 10 0 digits).map fun n => if negative then -n else n

/-- The value of digits, an optional point with digits and an optional exponent. -/
def decimalBody? (cs : List Char) : Option Float :=
  let whole := cs.takeWhile Char.isDigit
  let afterWhole := cs.dropWhile Char.isDigit
  let (fraction, afterFraction) := match afterWhole with
    | '.' :: rest => (rest.takeWhile Char.isDigit, rest.dropWhile Char.isDigit)
    | rest => ([], rest)
  let scale? := match afterFraction with
    | [] => some 0
    | e :: rest => if e = 'e' ∨ e = 'E' then exponent? rest else none
  if whole.isEmpty && fraction.isEmpty then none
  else
    scale?.bind fun scale =>
      (digitsValue? plainDigit? 10 0 (whole ++ fraction)).map fun digits =>
        Binary64.ofDecimal digits (scale - fraction.length)

/-- The double nearest to what a decimal numeral denotes; a numeral beyond every double
denotes an infinity. -/
def readFloat? (s : String) : Option Float :=
  (dropSeparators Char.isDigit false (plainNumeral s)).bind fun cs =>
    let (negative, body) := splitSign cs
    ((namedValue? body).or (decimalBody? body)).map fun x =>
      if negative then Binary64.negate x else x

end SensorLink.Decimal
