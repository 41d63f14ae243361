/-
# Errors of the message bus

The Bluetooth stack reports an error of its message bus by the error's name and
details.  Details that quote an error code of the attribute protocol are followed
by the code's description; where the code cannot be read, the error has no text.
-/

import SensorLink.Decimal.Numeral

namespace SensorLink.Bluetooth

/-- The error codes of the attribute protocol that have a description. -/
def attributeErrors : List (Nat × String) :=
  [(0x01, "Invalid Handle"), (0x02, "Read Not Permitted"), (0x03, "Write Not Permitted"),
    (0x04, "Invalid PDU"), (0x05, "Insufficient Authentication"),
    (0x06, "Request Not Supported"), (0x07, "Invalid Offset"),
    (0x08, "Insufficient Authorization"), (0x09, "Prepare Queue Full"),
    (0x0a, "Attribute Not Found"), (0x0b, "Attribute Not Long"),
    (0x0c, "Insufficient Encryption Key Size"), (0x0d, "Invalid Attribute Value Length"),
    (0x0e, "Unlikely Error"), (0x0f, "Insufficient Encryption"),
    (0x10, "Unsupported Group Type"), (0x11, "Insufficient Resource"),
    (0x12, "Database Out Of Sync"), (0x13, "Value Not Allowed"),
    (0xfc, "Write Request Rejected"),
    (0xfd, "Client Characteristic Configuration Descriptor Improperly Configured"),
    (0xfe, "Procedure Already in Progress"), (0xff, "Out of Range")]

/-- Whether a text contains a pattern. -/
def containsText (pattern : List Char) : List Char → Bool
  | [] => pattern.isEmpty
  | c :: rest => pattern.isPrefixOf (c :: rest) || containsText pattern rest

/-- The codes that an application defines for itself. -/
def isApplicationCode (code : Int) : Bool :=
  0x80 ≤ code && code ≤ 0x9f

/-- The description of an error code; a code without one is unknown. -/
def describeCode (code : Int) : String :=
  if isApplicationCode code then
    "Application-specific Error 0x" ++ (Text.hexPadded 2 code).toUpper
  else (attributeErrors.lookup code.toNat).getD "Unknown code"

/-- The code that a text quotes: what stands between its first two letters x. -/
def quotedCode (text : List Char) : String :=
  String.ofList (((text.dropWhile (· ≠ 'x')).drop 1).takeWhile (· ≠ 'x'))

/-- The text of an error with the general name and these details, or, if it has none, the quoted
code that cannot be read. -/
def busErrorText (details : String) : Except String String :=
  let lead := "[org.bluez.Error.Failed]"
  if details.isEmpty then .ok lead
  else
    let text := lead ++ " " ++ details
    if containsText "ATT error: 0x".toList details.toList then
      let code := quotedCode text.toList
      match Decimal.readHexadecimal? code with
      | some n => .ok (text ++ " (" ++ describeCode n ++ ")")
      | none => .error code
    else .ok text

end SensorLink.Bluetooth
