/-
# The exposition

The latest readings as a page for people and as an object for programs.  Both
show a value only if it was observed since the last connection: otherwise the
page says that it is not available and the object holds null.
-/

import SensorLink.Exposition.Page
import SensorLink.Exposition.Route
import SensorLink.Interchange

namespace SensorLink.Exposition

open Sensor (Kind PerKind Reading)

/-- The value of a reading, if it was observed. -/
def observedValue (r : Reading) : Option Float :=
  if r.observed then some r.value else none

/-- What programs are told: the connectivity and the observed values. -/
@[ext] structure Answer where
  connected : Bool
  values : PerKind (Option Float)

namespace Answer

/-- The answer to a request.  The connectivity and the readings are looked up one after the
other, and the store may change in between: each is taken from the store of its moment. -/
def ofStores (atFirst : Store) (later : PerKind Store) : Answer where
  connected := atFirst.connected
  values :=
    ⟨observedValue (later.temperature.read .temperature),
      observedValue (later.pressure.read .pressure),
      observedValue (later.humidity.read .humidity)⟩

/-- The answer about a store that does not change. -/
def ofStore (s : Store) : Answer :=
  ofStores s (.const s)

/-- A value in an object. -/
def valueOf : Option Float → Interchange
  | some value => .number (Decimal.Style.interchange.show value)
  | none => .null

/-- The answer as an object, its keys in alphabetical order. -/
def object (a : Answer) : Interchange :=
  .object [("connected", .bool a.connected), ("humidity", valueOf a.values.humidity),
    ("pressure", valueOf a.values.pressure), ("temperature", valueOf a.values.temperature)]

/-- The answer as text: the object and a line feed. -/
def text (a : Answer) : String :=
  a.object.write ++ "\n"

end Answer

/-- A response to a request. -/
structure Response where
  status : Nat
  contentType : String
  body : String

/-- The type of pages. -/
def pageType : String := "text/html; charset=utf-8"

/-- The type of objects. -/
def objectType : String := "application/json"

/-- A response without a body. -/
def Response.empty (status : Nat) : Response :=
  ⟨status, pageType, ""⟩

section

variable (insert : String → String) (s : Store)

/-- What reading a place gives; the folder for files is empty. -/
def Place.response : Place → Response
  | page => ⟨200, pageType, Exposition.page insert s⟩
  | readings => ⟨200, objectType, (Answer.ofStore s).text⟩
  | file => .empty 404

/-- The response to a granted request.  One for the head keeps the body back, and one for the
options is answered without the place. -/
def grant (m : Method) (place : Place) : Response :=
  match m with
  | .head => { place.response insert s with body := "" }
  | .options => .empty 200
  | _ => place.response insert s

/-- The response to a request, if `insert` puts texts into the slots of the page. -/
def respondWith (method target : String) : Except Failure Response := do
  let m := Method.named method
  match verdict m (← requestedPath target) with
  | .granted place => return grant insert s m place
  | .redirected => return .empty 308
  | .unknown => return .empty 404
  | .refused => return .empty 405

end

/-- The response to a request, with the markup of inserted texts escaped. -/
def respond (s : Store) (method target : String) : Except Failure Response :=
  respondWith escape s method target

end SensorLink.Exposition
