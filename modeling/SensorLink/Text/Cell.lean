/-
# Cells of a table

What stands in one cell of a plain table, and how it is written.  A text that
reads as a truth value or a number counts as one, also if commas part its
thousands.  A column is of the most general type of its cells, and a column of
real numbers writes all its numbers briefly.
-/

import SensorLink.Decimal.Numeral
import SensorLink.Decimal.Style
import SensorLink.Text.Markup

namespace SensorLink.Text

/-- What stands in a cell. -/
inductive Cell where
  | blank
  | text (s : String)
  | integer (n : Int)
  | real (x : Float)
  | flag (b : Bool)
  deriving Repr

/-- The types of cells and columns, from the least general to the most. -/
inductive CellType where
  | blank
  | flag
  | integer
  | real
  | text
  deriving DecidableEq, Repr

namespace CellType

/-- How general a type is. -/
def rank : CellType → Nat
  | blank => 0
  | flag => 1
  | integer => 2
  | real => 3
  | text => 4

/-- The more general of two types. -/
def join (a b : CellType) : CellType :=
  if a.rank < b.rank then b else a

/-- Whether a column of a type holds numbers. -/
def isNumeric : CellType → Bool
  | integer | real => true
  | _ => false

end CellType

/-- Whether a group between commas is three digits. -/
def isThousandsGroup (cs : List Char) : Bool :=
  cs.length = 3 && cs.all Char.isDigit

/-- Whether a text is a sign, if any, and digits whose thousands are parted by commas. -/
def isGroupedWhole (cs : List Char) : Bool :=
  match piecesAt ',' (Decimal.splitSign cs).2 with
  | first :: groups =>
    0 < first.length && first.length ≤ 3 && first.all Char.isDigit &&
      groups.all isThousandsGroup
  | [] => false

/-- Whether a text is a number whose thousands are parted by commas.  The whole part may be
missing, and a line feed may follow. -/
def isGrouped (cs : List Char) : Bool :=
  let body := if cs.getLast? = some '\n' then cs.dropLast else cs
  let whole := body.takeWhile (· ≠ '.')
  let fraction := (body.drop whole.length).drop 1
  let hasPoint := whole.length < body.length
  fraction.all Char.isDigit &&
    (isGroupedWhole whole || (whole.isEmpty && (!hasPoint || !fraction.isEmpty)))

/-- Whether a text reads as a real number.  A value that is not finite must be spelled out
plainly, and not as a numeral beyond every double. -/
def isReal (s : String) : Bool :=
  match Decimal.readFloat? s with
  | some x => Decimal.Binary64.isFinite x || s.toLower ∈ ["inf", "-inf", "nan"]
  | none => false

/-- The type of a text without markup. -/
def typeOfText (s : String) : CellType :=
  if s.isEmpty then .blank
  else if s = "True" ∨ s = "False" then .flag
  else
    let grouped := isGrouped s.toList
    if (Decimal.readInteger? s).isSome || (grouped && !s.toList.contains '.') then .integer
    else if isReal s || grouped then .real
    else .text

namespace Cell

/-- The type of a cell. -/
def type : Cell → CellType
  | blank => .blank
  | text s => typeOfText (visible s)
  | integer _ => .integer
  | real _ => .real
  | flag _ => .flag

/-- A cell as it stands. -/
def plain : Cell → String
  | blank => ""
  | text s => s
  | integer n => toString n
  | real x => Decimal.showFloat x
  | flag b => if b then "True" else "False"

end Cell

/-- Replace a pattern by a text wherever it occurs, from left to right; `skip` counts the
characters of the current occurrence that are still to be dropped. -/
def replaceAll (pattern other : List Char) : (skip : Nat) → List Char → List Char
  | _, [] => []
  | skip + 1, _ :: rest => replaceAll pattern other skip rest
  | 0, c :: rest =>
    if !pattern.isEmpty && pattern.isPrefixOf (c :: rest) then
      other ++ replaceAll pattern other (pattern.length - 1) rest
    else c :: replaceAll pattern other 0 rest

/-- A text in a column of real numbers.  In a table with markup, the number is written briefly
inside its markup; elsewhere, commas are dropped first.  What is no number stays. -/
def briefText (marked : Bool) (s : String) : String :=
  if marked then
    let seen := visible s
    match Decimal.readFloat? seen with
    | some x =>
      String.ofList (replaceAll seen.toList (Decimal.showBrief x).toList 0 s.toList)
    | none => s
  else
    let bare := String.ofList (s.toList.filter (· ≠ ','))
    match Decimal.readFloat? bare with
    | some x => Decimal.showBrief x
    | none => bare

/-- Whether a character is not printed as it stands: it is no visible character of ASCII, or the
one that introduces escapes. -/
def isEscaped (c : Char) : Bool :=
  c.toNat < 32 || 126 < c.toNat || c = '\\'

/-- A coloured integer at the beginning of a text, with its leading zeros dropped: a control
sequence with one parameter, digits, and something behind them that is not printed. -/
def recoloured? : List Char → Option (List Char)
  | e :: '[' :: rest =>
    let parameter := rest.takeWhile Char.isDigit
    match rest.drop parameter.length with
    | letter :: behind =>
      let digits := behind.takeWhile Char.isDigit
      let tail := behind.drop digits.length
      let isColour := letter = 'm' || letter = 'M'
      if e = escapeChar && isColour && !parameter.isEmpty && tail.head?.any isEscaped then
        (Decimal.separatedValue? Decimal.plainDigit? 10 digits).map fun value =>
          e :: '[' :: parameter ++ letter :: (Nat.toDigits 10 value ++ tail)
      else none
    | [] => none
  | _ => none

/-- The text from its first coloured integer on, if there is one. -/
def fromColoured? : List Char → Option (List Char)
  | [] => none
  | c :: rest => (recoloured? (c :: rest)).or (fromColoured? rest)

/-- A text in a column of integers. -/
def integerText (s : String) : String :=
  ((fromColoured? s.toList).map String.ofList).getD s

/-- A cell as it is written in a column of a type, in a table with markup or without.  An integer
beyond every double stays as it is. -/
def Cell.write (marked : Bool) (type : CellType) (cell : Cell) : String :=
  match type, cell with
  | .integer, text s => integerText s
  | .real, text s => briefText marked s
  | .real, integer n =>
    let x := Decimal.Binary64.ofInt n
    if Decimal.Binary64.isFinite x then Decimal.showBrief x else cell.plain
  | .real, real x => Decimal.showBrief x
  | .real, flag b => if b then "1" else "0"
  | _, cell => cell.plain

/-- The number of characters behind the last occurrence of a character. -/
def behindLast? (class? : Char → Bool) (cs : List Char) : Option Nat :=
  if cs.any class? then some (cs.reverse.takeWhile (!class? ·)).length else none

/-- The number of characters behind the point of a written number, or behind the letter of its
exponent if it has no point; an integer has neither, nor has what is no number. -/
def fractionLength? (s : String) : Option Nat :=
  let isNumber := isReal s || isGrouped s.toList
  if isNumber && (Decimal.readInteger? s).isNone then
    (behindLast? (· = '.') s.toList).or (behindLast? (fun c => c = 'e' || c = 'E') s.toList)
  else none

end SensorLink.Text
