/-
# Blanks

The characters that surround a value without belonging to it: the Unicode white
space, together with the four information separators of ASCII.  `trim` removes
them from both ends of a text.
-/

import SensorLink.Text.Interval

namespace SensorLink.Text

/-- The blank code points. -/
def blankIntervals : List Interval :=
  [(0x09, 0x0d), (0x1c, 0x20), (0x85, 0x85), (0xa0, 0xa0), (0x1680, 0x1680), (0x2000, 0x200a),
    (0x2028, 0x2029), (0x202f, 0x202f), (0x205f, 0x205f), (0x3000, 0x3000)]

/-- Whether a character is blank. -/
def isBlank (c : Char) : Bool :=
  Interval.covers blankIntervals c.toNat

/-- Characters with every leading and trailing member of a class removed. -/
def stripBy (class? : Char → Bool) (cs : List Char) : List Char :=
  ((cs.dropWhile class?).reverse.dropWhile class?).reverse

/-- A text without the blanks at its two ends. -/
def trim (s : String) : String :=
  String.ofList (stripBy isBlank s.toList)

end SensorLink.Text
