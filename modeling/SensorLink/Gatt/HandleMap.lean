/-
# Handles of the sensor characteristics

For one connection, the value handle of every sensor kind that the peripheral
offers.  The entries keep the order in which their kinds were first added, and a
kind is never added twice.  A handle is kept as discovery shows it, and may be
null; only a text cannot show a null handle.
-/

import SensorLink.Journal
import SensorLink.Sensor.Kind
import SensorLink.Text.Hexadecimal

namespace SensorLink.Gatt

open Sensor (Kind)
open Text (handleText)

/-- A located sensor characteristic; its handle may be null. -/
structure Entry where
  kind : Kind
  handle : Option Int
  uuid : String
  deriving DecidableEq, Repr

/-- The located characteristics, one for each kind at most. -/
structure HandleMap where
  entries : List Entry
  distinct : (entries.map Entry.kind).Nodup := by simp

namespace HandleMap

/-- No characteristic. -/
def empty : HandleMap where
  entries := []

/-- The entry of a kind. -/
def find? (m : HandleMap) (kind : Kind) : Option Entry :=
  m.entries.find? (·.kind == kind)

/-- Whether a kind has an entry. -/
def contains (m : HandleMap) (kind : Kind) : Bool :=
  (m.find? kind).isSome

/-- The handle of a kind, if the kind has an entry and the entry a handle. -/
def handleFor (m : HandleMap) (kind : Kind) : Option Int :=
  (m.find? kind).bind Entry.handle

/-- The entry with a handle; of several, the one added last. -/
def byHandle (m : HandleMap) (handle : Option Int) : Option Entry :=
  m.entries.reverse.find? (·.handle == handle)

/-- A kind without an entry is the kind of no entry. -/
theorem find?_eq_none_iff {m : HandleMap} {kind : Kind} :
    m.find? kind = none ↔ kind ∉ m.entries.map Entry.kind := by
  simp only [find?, List.find?_eq_none, beq_iff_eq, List.mem_map, not_exists, not_and]

/-- Add an entry, unless its kind has one already. -/
def add (m : HandleMap) (e : Entry) : HandleMap :=
  match h : m.find? e.kind with
  | some _ => m
  | none =>
    { entries := m.entries ++ [e]
      distinct := by
        have new := find?_eq_none_iff.1 h
        rw [List.map_append, List.nodup_append]
        refine ⟨m.distinct, by simp, ?_⟩
        intro kind old other single same
        simp only [List.map_cons, List.map_nil, List.mem_singleton] at single
        exact new (single ▸ same ▸ old) }

/-- What the journal says about an entry that is not added, if the handles can be shown. -/
def duplicateRecord? (m : HandleMap) (e : Entry) : Option Journal.Record := do
  let kept ← m.find? e.kind
  let refused ← e.handle
  let handle ← kept.handle
  return Journal.note .debug ("Duplicate " ++ e.kind.name ++ " characteristic at handle " ++
    handleText refused ++ "; keeping " ++ handleText handle)

/-- Add several entries in order. -/
def addAll (m : HandleMap) (es : List Entry) : HandleMap :=
  es.foldl add m

/-- The map of a list of entries. -/
def ofList (es : List Entry) : HandleMap :=
  empty.addAll es

/-- What the journal says while several entries are added. -/
def addRecords (m : HandleMap) : List Entry → List Journal.Record
  | [] => []
  | e :: rest => (m.duplicateRecord? e).toList ++ addRecords (m.add e) rest

/-- The number of entries. -/
def size (m : HandleMap) : Nat :=
  m.entries.length

/-- An entry as text: its kind with its handle. -/
def entryText (e : Entry) : Except Failure String :=
  match e.handle with
  | some handle => .ok (e.kind.name ++ "=" ++ handleText handle)
  | none => .error .noHandle

/-- The map as text. -/
def text (m : HandleMap) : Except Failure String := do
  let items ← m.entries.mapM entryText
  return "HandleMap(" ++ ", ".intercalate items ++ ")"

end HandleMap

end SensorLink.Gatt
