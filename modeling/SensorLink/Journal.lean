/-
# The journal

Records that the parts of the program leave behind for its operator.  A
threshold decides which of them are kept; nothing else depends on the journal.
-/

import SensorLink.Failure

namespace SensorLink

namespace Journal

/-- How grave a record is. -/
inductive Level where
  | debug
  | info
  | warning
  | error
  deriving DecidableEq, Repr

/-- The numeric rank of a level. -/
def Level.rank : Level → Nat
  | debug => 10
  | info => 20
  | warning => 30
  | error => 40

/-- Whether records of a level pass a threshold. -/
def Level.passes (level threshold : Level) : Bool :=
  threshold.rank ≤ level.rank

/-- The capital name of a level. -/
def Level.name : Level → String
  | debug => "DEBUG"
  | info => "INFO"
  | warning => "WARNING"
  | error => "ERROR"

/-- The part of the program that leaves a record. -/
inductive Source where
  | link
  | publishing
  | exposition
  | program
  deriving DecidableEq, Repr

/-- One record; it may carry the failure that caused it. -/
structure Record where
  level : Level
  source : Source
  text : String
  cause : Option Failure := none
  deriving Repr

/-- A record of the link without a cause. -/
def note (level : Level) (text : String) : Record :=
  { level, source := .link, text }

/-- A record of the link about an unexpected failure. -/
def unexpected (text : String) (cause : Failure) : Record :=
  { level := .error, source := .link, text, cause := some cause }

/-- A record of the link about a failure that was caught: grave unless the failure is expected. -/
def caught (text : String) (f : Failure) : Record :=
  if f.isExpected then note .debug (text ++ ": " ++ f.message) else unexpected text f

end Journal

end SensorLink
