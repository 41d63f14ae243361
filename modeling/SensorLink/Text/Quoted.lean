/-
# Quoted text

A text is quoted with apostrophes, or with quotation marks when it contains an
apostrophe and no quotation mark.  The backslash and the mark in use are
escaped, as are the line feed, the carriage return and the tab; any other
character that is not printable is written by its code point, in two, four or
eight hexadecimal places.
-/

import SensorLink.Text.Printable
import SensorLink.Text.Hexadecimal

namespace SensorLink.Text

/-- The mark that quotes a text. -/
def quoteMark (cs : List Char) : Char :=
  if cs.contains '\'' && !cs.contains '"' then '"' else '\''

/-- How one character stands inside quoted text. -/
def quoteChar (mark : Char) (c : Char) : List Char :=
  if c = mark ∨ c = '\\' then ['\\', c]
  else if c = '\n' then ['\\', 'n']
  else if c = '\r' then ['\\', 'r']
  else if c = '\t' then ['\\', 't']
  else if isPrintable c then [c]
  else
    let digits := hexDigits c.toNat
    if c.toNat < 0x100 then '\\' :: 'x' :: zeroFill 2 digits
    else if c.toNat < 0x10000 then '\\' :: 'u' :: zeroFill 4 digits
    else '\\' :: 'U' :: zeroFill 8 digits

/-- A text in quotes. -/
def quoted (s : String) : String :=
  let mark := quoteMark s.toList
  String.ofList (mark :: s.toList.flatMap (quoteChar mark) ++ [mark])

/-- The beginning of a text, no longer than a limit. -/
def shortened (limit : Nat) (s : String) : String :=
  String.ofList (s.toList.take limit)

/-- Several quoted texts, separated by commas, without brackets. -/
def quotedList (items : List String) : String :=
  ", ".intercalate (items.map quoted)

end SensorLink.Text
