/-
# Failures

What can go wrong while talking to a peripheral, as causes.  A failure has a
class, which decides who handles it, and a message.  Failures that the
Bluetooth stack or a listener reports carry the class and text they came with.
-/

import SensorLink.Sensor.Kind
import SensorLink.Text.Quoted

namespace SensorLink

/-- The classes of failures. -/
inductive FailureClass where
  /-- An operation on the link failed or ran out of time. -/
  | link
  /-- A payload cannot be decoded. -/
  | decode
  /-- The Bluetooth stack failed. -/
  | stack
  /-- The message bus of the Bluetooth stack failed. -/
  | bus
  /-- The Bluetooth stack does not know the peripheral. -/
  | deviceNotFound
  /-- The operating system refused an operation. -/
  | system
  /-- A connection of the operating system broke. -/
  | connection
  /-- Time ran out. -/
  | timeout
  | runtime
  | value
  | attribute
  | memory
  | overflow
  | type
  /-- What was waited for was cancelled. -/
  | cancelled
  deriving DecidableEq, Repr

/-- Transport failures are expected from a flaky peripheral. -/
def FailureClass.isTransport : FailureClass → Bool
  | .link | .stack | .bus | .deviceNotFound | .system | .connection | .timeout => true
  | _ => false

/-- Expected failures are those of the transport and those of a malformed payload. -/
def FailureClass.isExpected (c : FailureClass) : Bool :=
  c.isTransport || c == .decode

/-- A failure, as its cause. -/
inductive Failure where
  /-- A guarded operation did not finish within its limit, given as a text in seconds. -/
  | timedOut (operation limit : String)
  /-- The session has already forgotten its client. -/
  | noClient (operation : String)
  /-- The attributes of the peripheral are not known yet. -/
  | discoveryIncomplete
  /-- A payload is shorter than its kind's width. -/
  | payloadTooShort (kind : Sensor.Kind) (needed got : Nat)
  /-- There is no way of ingestion with this name. -/
  | unknownMode (mode : String)
  /-- A polling interval, given as a text, is not positive. -/
  | intervalNotPositive (interval : String)
  /-- A growing delay exceeds every double. -/
  | delayOverflow
  /-- The number of an attempt exceeds every double. -/
  | attemptOverflow
  /-- An object lacks an attribute. -/
  | missing (name : String)
  /-- Nothing stands where a sequence is expected. -/
  | notSequence
  /-- Nothing stands where a handle is expected. -/
  | noHandle
  /-- There is no sensor kind with this name. -/
  | unknownKind (name : String)
  /-- There is no state of a connection with this name. -/
  | unknownState (name : String)
  /-- A bracket around an authority has no partner. -/
  | loneBracket
  /-- The event loop has been closed. -/
  | loopClosed
  /-- The system refuses another thread. -/
  | noThread
  /-- What another thread waited for was cancelled. -/
  | cancelled
  /-- Reported by the message bus with an error code that cannot be read. -/
  | unreadableCode (code : String)
  /-- Reported by the Bluetooth stack or by a listener. -/
  | reported (kind : FailureClass) (text : String)
  deriving Repr

namespace Failure

/-- The class of a failure. -/
def kind : Failure → FailureClass
  | timedOut .. | noClient .. | discoveryIncomplete => .link
  | payloadTooShort .. => .decode
  | unknownMode .. | intervalNotPositive .. | unknownKind .. | unknownState ..
  | loneBracket => .value
  | loopClosed | noThread => .runtime
  | delayOverflow | attemptOverflow => .overflow
  | missing .. => .attribute
  | notSequence | noHandle => .type
  | cancelled => .cancelled
  | unreadableCode _ => .bus
  | reported kind _ => kind

/-- The message of a failure. -/
def message : Failure → String
  | timedOut operation limit => operation ++ " timed out after " ++ limit ++ " seconds"
  | noClient operation => "Cannot " ++ operation ++ ": no BLE client for this session"
  | discoveryIncomplete => "GATT service discovery has not completed"
  | payloadTooShort kind needed got =>
    kind.name ++ " payload needs " ++ toString needed ++ " bytes, got " ++ toString got
  | unknownMode mode => "Unknown ingestion mode: " ++ Text.quoted mode
  | intervalNotPositive interval => "interval must be > 0, got " ++ interval
  | delayOverflow => "(34, 'Numerical result out of range')"
  | attemptOverflow => "int too large to convert to float"
  | missing name => name
  | notSequence => "'NoneType' object is not iterable"
  | noHandle => "unsupported format string passed to NoneType.__format__"
  | unknownKind name => Text.quoted name ++ " is not a valid SensorKind"
  | unknownState name => Text.quoted name ++ " is not a valid ConnectionState"
  | loneBracket => "Invalid IPv6 URL"
  | loopClosed => "Event loop is closed"
  | noThread => "can't start new thread"
  | cancelled => ""
  | unreadableCode code =>
    "invalid literal for int() with base 16: " ++ Text.shortened 200 (Text.quoted code)
  | reported _ text => text

/-- The failure of giving a failure's text, if it has none.  The text of a bus error describes the
code that the error quotes, so a code that cannot be read leaves nothing but the complaint. -/
def flaw? : Failure → Option Failure
  | unreadableCode code => some (.reported .value (unreadableCode code).message)
  | _ => none

/-- The text of a failure, or why it has none. -/
def text (f : Failure) : Except Failure String :=
  match f.flaw? with
  | some flaw => .error flaw
  | none => .ok f.message

/-- Whether a failure belongs to the transport. -/
def isTransport (f : Failure) : Bool :=
  f.kind.isTransport

/-- Whether a failure belongs to the transport or to a malformed payload. -/
def isExpected (f : Failure) : Bool :=
  f.kind.isExpected

/-- A transport failure is an expected one. -/
theorem isExpected_of_isTransport {f : Failure} (h : f.isTransport = true) :
    f.isExpected = true := by
  simp only [isExpected, FailureClass.isExpected, Bool.or_eq_true]
  exact Or.inl h

end Failure

/-- The sensor kind that a name denotes. -/
def Sensor.Kind.named (name : String) : Except Failure Sensor.Kind :=
  match Sensor.Kind.ofName? name with
  | some kind => .ok kind
  | none => .error (.unknownKind name)

end SensorLink
