/-
# Finding the sensor characteristics

In the first service with the target identifier, the first characteristic of
every sensor kind is located.  Other services and other characteristics do not
matter, nor do identifiers without a normal form.  A characteristic to locate has
to say its handle, which may be null.
-/

import SensorLink.Gatt.HandleMap
import SensorLink.Gatt.Tree
import SensorLink.Sensor.Characteristic

namespace SensorLink.Gatt

open Sensor (Kind)

/-- Whether an object's identifier has the given normal form. -/
def hasNormalForm (uuid : Option Identifier) (target : String) : Bool :=
  Bluetooth.normalForm? (spellingOf uuid) == some target

/-- The sensor kind of a characteristic. -/
def Characteristic.kind? (c : Characteristic) : Option Kind :=
  Kind.ofUuid? (spellingOf c.uuid)

/-- The entries of the sensor characteristics in a list, up to one that does not say its handle. -/
def locate : List Characteristic → List Entry × Option Failure
  | [] => ([], none)
  | c :: rest =>
    match c.kind? with
    | none => locate rest
    | some kind =>
      match c.handle with
      | .absent => ([], some (.missing "handle"))
      | handle =>
        let (entries, failure) := locate rest
        (⟨kind, handle.value?, kind.uuid⟩ :: entries, failure)

/-- What a resolution leaves in the journal, and its result. -/
structure Resolution where
  records : List Journal.Record
  result : Except Failure HandleMap

/-- The map of the characteristics in a list. -/
def mapOf (cs : List Characteristic) : Except Failure HandleMap :=
  match locate cs with
  | (_, some f) => .error f
  | (entries, none) => .ok (.ofList entries)

/-- The resolution of the service that was found. -/
def resolveService (s : Service) : Resolution :=
  let found := Journal.note .info "Environmental sensing service found"
  match s.characteristicList with
  | .error f => ⟨[found], .error f⟩
  | .ok cs => ⟨found :: HandleMap.empty.addRecords (locate cs).1, mapOf cs⟩

/-- Locate the sensor characteristics of a tree. -/
def resolve (tree : Tree) (target : String := Sensor.serviceUuid) : Resolution :=
  match tree.find? fun s => hasNormalForm s.uuid target with
  | some s => resolveService s
  | none =>
    ⟨[Journal.note .info "Environmental sensing service not present on peripheral"], .ok .empty⟩

end SensorLink.Gatt
