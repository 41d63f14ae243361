/-
# Listing a tree

The discovered tree as a table with one row for every service, characteristic
and descriptor.  A listing fails where a description lacks a part it shows.
-/

import SensorLink.Gatt.Tree
import SensorLink.Text.Hexadecimal
import SensorLink.Text.Table

namespace SensorLink.Gatt

open Text (Cell handleText)

/-- The cell of an identifier; nothing stands for none. -/
def Identifier.cell : Identifier → Cell
  | text s => .text s
  | integer n => .integer n
  | real x => .real x
  | flag b => .flag b
  | none => .blank

/-- The row of an object: its type, handle, identifier and properties. -/
def objectRow (type : String) (handle : Except Failure Int) (uuid : Option Identifier)
    (properties : String) : Except Failure (List Cell) := do
  let h ← handle
  let u ← requireUuid uuid
  return [.text type, .text (handleText h), u.cell, .text properties]

/-- The row of a descriptor. -/
def Descriptor.row (d : Descriptor) : Except Failure (List Cell) :=
  objectRow "descr" (requireHandle d.handle) d.uuid ""

/-- The rows of a characteristic and its descriptors. -/
def Characteristic.rows (c : Characteristic) : Except Failure (List (List Cell)) := do
  let properties := ",".intercalate c.properties.items
  let row ← objectRow "charac" (requireHandle c.handle) c.uuid properties
  return row :: (← c.descriptors.items.mapM Descriptor.row)

/-- The handle that a service's row shows; zero if it has none. -/
def Service.shownHandle (s : Service) : Except Failure Int :=
  match s.handle with
  | .given h => .ok h
  | .absent => .ok 0
  | .empty => .error .noHandle

/-- The rows of a service and all it contains. -/
def Service.rows (s : Service) : Except Failure (List (List Cell)) := do
  let row ← objectRow "service" s.shownHandle s.uuid ""
  let cs ← s.characteristicList
  return row :: (← cs.mapM Characteristic.rows).flatten

/-- The tree as a table. -/
def Tree.listing (tree : Tree) : Except Failure String := do
  let rows ← tree.mapM Service.rows
  return Text.renderTable ["type", "handle", "uuid", "properties"] rows.flatten

end SensorLink.Gatt
