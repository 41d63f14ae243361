/-
# The discovered attribute tree

A peripheral offers services, a service has characteristics, and these have
descriptors.  Discovery may leave parts of a description out: an attribute can
be absent, or present without a value, and the readers of the tree tell these
cases apart.
-/

import SensorLink.Decimal.Style
import SensorLink.Failure

namespace SensorLink.Gatt

/-- A part of a description that discovery may have left out. -/
inductive Field (α : Type) where
  | absent
  | empty
  | given (a : α)
  deriving Repr

/-- The value of a field, if it has one. -/
def Field.value? {α : Type} : Field α → Option α
  | given a => some a
  | absent | empty => none

/-- What a field shows, which may be nothing; a field that is absent shows nothing at all. -/
def Field.shown? {α : Type} : Field α → Option (Option α)
  | given a => some (some a)
  | empty => some none
  | absent => none

/-- The items of a field that may be left out in either way. -/
def Field.items {α : Type} (f : Field (List α)) : List α :=
  f.value?.getD []

/-- What stands where an identifier is expected. -/
inductive Identifier where
  | text (s : String)
  | integer (n : Int)
  | real (x : Float)
  | flag (b : Bool)
  | none
  deriving Repr

/-- The text of an identifier. -/
def Identifier.spelling : Identifier → String
  | text s => s
  | integer n => toString n
  | real x => Decimal.showFloat x
  | flag true => "True"
  | flag false => "False"
  | none => "None"

/-- A descriptor of a characteristic. -/
structure Descriptor where
  uuid : Option Identifier
  handle : Field Int
  deriving Repr

/-- A characteristic of a service. -/
structure Characteristic where
  uuid : Option Identifier
  handle : Field Int
  properties : Field (List String)
  descriptors : Field (List Descriptor)
  deriving Repr

/-- A service of the peripheral. -/
structure Service where
  uuid : Option Identifier
  handle : Field Int
  characteristics : Field (List Characteristic)
  deriving Repr

/-- The services of a peripheral, in the order of discovery. -/
abbrev Tree := List Service

/-- The spelling of an identifier that may have been left out. -/
def spellingOf (uuid : Option Identifier) : String :=
  (uuid.map Identifier.spelling).getD ""

/-- The identifier of an object that must have one. -/
def requireUuid (uuid : Option Identifier) : Except Failure Identifier :=
  match uuid with
  | some u => .ok u
  | none => .error (.missing "uuid")

/-- The handle of an object that must have one. -/
def requireHandle : Field Int → Except Failure Int
  | .given h => .ok h
  | .absent => .error (.missing "handle")
  | .empty => .error .noHandle

/-- The characteristics of a service; leaving them out altogether means none. -/
def Service.characteristicList (s : Service) : Except Failure (List Characteristic) :=
  match s.characteristics with
  | .given cs => .ok cs
  | .absent => .ok []
  | .empty => .error .notSequence

/-- Search the characteristics for a handle, which may be null; one that does not say its handle
ends the search. -/
def searchHandle (handle : Option Int) :
    List Characteristic → Except Failure (Option Characteristic)
  | [] => .ok none
  | c :: rest =>
    match c.handle.shown? with
    | some shown => if shown = handle then .ok (some c) else searchHandle handle rest
    | none => .error (.missing "handle")

/-- The first characteristic with a handle, in the order of the tree; a service whose
characteristics are null ends the search. -/
def Tree.findHandle : Tree → Option Int → Except Failure (Option Characteristic)
  | [], _ => .ok none
  | s :: rest, handle =>
    match s.characteristicList.bind (searchHandle handle) with
    | .ok none => Tree.findHandle rest handle
    | found => found

end SensorLink.Gatt
