/-
# Guarded execution

Calling something whose failure must not spread: a guarded call replaces the
failure by a fallback and leaves a record of it, and a guarded clean-up only
leaves a record.  A failure spreads after all if a record must show its text and
it has none.
-/

import SensorLink.Journal

namespace SensorLink.Guard

open Journal (Level Record)

variable {α : Type}

/-- The result of a guarded call. -/
def result (outcome : Except Failure α) (fallback : α) : α :=
  match outcome with
  | .ok a => a
  | .error _ => fallback

/-- Leave a record about a failure, if the record passes a threshold.  Only then is the
failure's text needed, and it may have none. -/
def leave (threshold : Level) (f : Failure) (r : Record) : Except Failure (List Record) :=
  if r.level.passes threshold then f.text.map fun _ => [r] else .ok []

/-- What a guarded call leaves in the journal, unless it is told to be silent. -/
def records (threshold : Level) (outcome : Except Failure α) (silent : Bool) (text : String) :
    Except Failure (List Record) :=
  match outcome with
  | .ok _ => .ok []
  | .error f => if silent then .ok [] else leave threshold f (Journal.caught text f)

/-- What a guarded clean-up leaves in the journal. -/
def cleanupRecords (threshold : Level) (outcome : Except Failure α) (name : String) :
    Except Failure (List Record) :=
  match outcome with
  | .ok _ => .ok []
  | .error f =>
    leave threshold f (Journal.note .debug ("Error during " ++ name ++ ": " ++ f.message))

/-- The text about a failed call, unless another is given. -/
def defaultText : String := "Error in operation"

/-- The name of a clean-up, unless another is given. -/
def defaultName : String := "cleanup operation"

end SensorLink.Guard
