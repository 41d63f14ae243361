/-
# Plain tables

Rows of cells under a heading and a rule.  A column of numbers is aligned to the
right and at the points of its numbers, any other column to the left.  A column
is at least two wider than its heading and as wide as its widest cell, not
counting markup; two spaces separate columns, and no line ends in a space.  If
any cell is broken into lines, every row takes as many lines as its tallest cell.
-/

import SensorLink.Text.Blank
import SensorLink.Text.Cell
import SensorLink.Text.Lines

namespace SensorLink.Text

/-- What the cells of a table have among them. -/
structure Makeup where
  /-- Whether some cell has markup. -/
  marked : Bool
  /-- Whether some cell is broken into lines. -/
  broken : Bool

/-- Whether a text has a line feed or a carriage return. -/
def isBroken (cs : List Char) : Bool :=
  cs.any fun c => c = '\n' || c = '\r'

/-- The makeup of rows. -/
def Makeup.ofRows (rows : List (List Cell)) : Makeup :=
  let texts := rows.flatten.map fun cell => cell.plain.toList
  ⟨texts.any hasMarkup, texts.any isBroken⟩

/-- The pieces of a cell that are measured: each line feed and each carriage return parts two. -/
def Makeup.pieces (m : Makeup) (s : String) : List String :=
  if m.broken then
    let unified := s.toList.map fun c => if c = '\r' then '\n' else c
    (piecesAt '\n' unified).map String.ofList
  else [s]

/-- The width of a piece. -/
def Makeup.width (m : Makeup) (s : String) : Nat :=
  if m.marked then (visible s).length else s.length

/-- The width of a cell. -/
def Makeup.cellWidth (m : Makeup) (s : String) : Nat :=
  ((m.pieces s).map m.width).foldl max 0

/-- A text filled up with spaces to a number of characters. -/
def fillUp (rightAligned : Bool) (count : Nat) (s : String) : String :=
  let spaces := String.ofList (List.replicate (count - s.length) ' ')
  if rightAligned then spaces ++ s else s ++ spaces

/-- The lines of a cell, filled up to a width.  Every line is lengthened by the invisible
characters of the piece in its place. -/
def Makeup.fillLines (m : Makeup) (rightAligned : Bool) (width : Nat) (s : String) :
    List String :=
  let counts := (m.pieces s).map fun piece => width + (piece.length - m.width piece)
  if !m.broken then [fillUp rightAligned (counts.headD width) s]
  else if m.marked then
    ((linesOf s).zip counts).map fun (line, count) => fillUp rightAligned count line
  else (linesOf s).map (fillUp rightAligned width)

/-- A column that is ready to be put into rows. -/
structure Column where
  heading : String
  width : Nat
  rightAligned : Bool
  /-- The lines of every cell. -/
  cells : List (List String)

/-- Spaces behind the numbers of a column, such that their points stand one below the other. -/
def alignPoints (m : Makeup) (texts : List String) : List String :=
  let behind (s : String) : Int :=
    match fractionLength? (if m.marked then visible s else s) with
    | some n => n
    | none => -1
  let most := (texts.map behind).foldl max (-1)
  texts.map fun s => s ++ String.ofList (List.replicate (most - behind s).toNat ' ')

/-- The column of a heading and its cells. -/
def Column.make (m : Makeup) (heading : String) (cells : List Cell) : Column :=
  let type := (cells.map Cell.type).foldl CellType.join .flag
  let texts := cells.map (Cell.write m.marked type)
  let rightAligned := type.isNumeric
  let texts := if rightAligned then alignPoints m texts else texts.map trim
  let least := heading.length + 2
  let width := (texts.map m.cellWidth).foldl max least
  let lines := texts.map (m.fillLines rightAligned width)
  let shown := lines.flatMap fun cell => (m.pieces ("\n".intercalate cell)).map m.width
  ⟨heading, shown.foldl max least, rightAligned, lines⟩

/-- A text without the blanks at its end. -/
def trimEnd (s : String) : String :=
  String.ofList (s.toList.reverse.dropWhile isBlank).reverse

/-- A line of filled-up cells. -/
def joinCells (cells : List String) : String :=
  trimEnd ("  ".intercalate cells)

/-- The lines of the row with an index; a cell that has run out of lines leaves spaces. -/
def rowLines (columns : List Column) (index : Nat) : List String :=
  let cells := columns.map fun c => c.cells.getD index []
  let height := (cells.map List.length).foldl max 0
  (List.range height).map fun i =>
    joinCells ((columns.zip cells).map fun (c, cell) => cell.getD i (fillUp false c.width ""))

/-- A table as text, without a line break at its end. -/
def renderTable (headings : List String) (rows : List (List Cell)) : String :=
  let m := Makeup.ofRows rows
  let columns := headings.zipIdx.map fun (heading, i) =>
    Column.make m heading (rows.map fun row => row.getD i .blank)
  let top := joinCells (columns.map fun c => fillUp c.rightAligned c.width c.heading)
  let rule := joinCells (columns.map fun c => String.ofList (List.replicate c.width '-'))
  "\n".intercalate (top :: rule :: (List.range rows.length).flatMap (rowLines columns))

end SensorLink.Text
