/-
# Lines

The lines of a text.  Every break of the Unicode standard ends a line, and so do
three of the information separators; a carriage return and the line feed behind
it are one break.  A text that ends in a break has no further line.
-/

namespace SensorLink.Text

/-- Whether a character ends a line. -/
def isLineBreak (c : Char) : Bool :=
  let n := c.toNat
  (0x0a ≤ n && n ≤ 0x0d) || (0x1c ≤ n && n ≤ 0x1e) || n = 0x85 || n = 0x2028 || n = 0x2029

/-- The lines of characters behind the begun line `current`, which is held in reverse. -/
def splitLines (current : List Char) : List Char → List (List Char)
  | [] => if current.isEmpty then [] else [current.reverse]
  | '\r' :: '\n' :: rest => current.reverse :: splitLines [] rest
  | c :: rest =>
    if isLineBreak c then current.reverse :: splitLines [] rest else splitLines (c :: current) rest

/-- The lines of a text. -/
def linesOf (s : String) : List String :=
  (splitLines [] s.toList).map String.ofList

/-- A break inside a text parts two lines, and one at its end adds none. -/
example :
    splitLines [] ['a', '\r', '\n', 'b', '\n'] = [['a'], ['b']] := by
  decide

end SensorLink.Text
