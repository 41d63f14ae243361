/-
# Identifiers of attributes

An attribute's identifier has a normal form: thirty-two lower-case hexadecimal
digits in groups of 8, 4, 4, 4 and 12.  Many spellings share a normal form:
the registry's four- and eight-digit abbreviations, resource-name marks, braces,
hyphens anywhere, either case, and everything else a hexadecimal numeral allows.
-/

import SensorLink.Decimal.Numeral

namespace SensorLink.Bluetooth

open SensorLink.Text (hexDigits stripBy zeroFill)

/-- The part that abbreviated identifiers share. -/
def baseTail : String := "-0000-1000-8000-00805f9b34fb"

/-- Spell an abbreviation out; other texts stay as they are. -/
def expandAbbreviation (s : String) : String :=
  if s.length = 4 then "0000" ++ s ++ baseTail
  else if s.length = 8 then s ++ baseTail
  else s

/-- Remove every occurrence of a non-empty pattern, from left to right; `skip` counts the
characters of the current occurrence that are still to be removed. -/
def deleteAll (pattern : List Char) : (skip : Nat) → List Char → List Char
  | _, [] => []
  | skip + 1, _ :: rest => deleteAll pattern skip rest
  | 0, c :: rest =>
    if pattern.isPrefixOf (c :: rest) then deleteAll pattern (pattern.length - 1) rest
    else c :: deleteAll pattern 0 rest

/-- The characters of a spelling that should be its thirty-two digits. -/
def digitsOfSpelling (s : String) : List Char :=
  let bare := deleteAll "uuid:".toList 0 (deleteAll "urn:".toList 0 s.toList)
  (stripBy (fun c => c = '\x7b' ∨ c = '\x7d') bare).filter (· ≠ '-')

/-- The normal form of an identifier's value. -/
def canonicalText (value : Nat) : String :=
  let ds := zeroFill 32 (hexDigits value)
  let group (start count : Nat) := String.ofList ((ds.drop start).take count)
  "-".intercalate [group 0 8, group 8 4, group 12 4, group 16 4, group 20 12]

/-- The normal form of a spelling, if it has one. -/
def normalForm? (s : String) : Option String :=
  let digits := digitsOfSpelling (expandAbbreviation s)
  if digits.length = 32 then
    (Decimal.readHexadecimal? (String.ofList digits)).bind fun value =>
      if 0 ≤ value then some (canonicalText value.toNat) else none
  else none

/-- The normal form of the identifier with a sixteen-bit assigned number. -/
def ofAssignedNumber (n : Nat) : String :=
  String.ofList (zeroFill 8 (hexDigits n)) ++ baseTail

end SensorLink.Bluetooth
