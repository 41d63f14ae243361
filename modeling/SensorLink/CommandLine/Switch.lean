/-
# The switches of the command line

Every switch has a long spelling, some have a short one of a single letter.  A
switch stands alone or takes one argument, which sets a field of the
configuration.
-/

import SensorLink.Device.Config

namespace SensorLink.CommandLine

/-- The switches. -/
inductive Switch where
  | help
  | address
  | addressType
  | security
  | mode
  | pollInterval
  | reconnectDelay
  | discoveryTimeout
  | host
  | port
  | noWeb
  | verbose
  | quiet
  deriving DecidableEq, Repr

namespace Switch

/-- All switches, in the order of the help text. -/
def all : List Switch :=
  [help, address, addressType, security, mode, pollInterval, reconnectDelay, discoveryTimeout,
    host, port, noWeb, verbose, quiet]

/-- The letter of the short spelling. -/
def letter? : Switch → Option Char
  | help => some 'h'
  | verbose => some 'v'
  | quiet => some 'q'
  | _ => none

/-- The short spelling. -/
def short? (s : Switch) : Option String :=
  s.letter?.map fun c => String.ofList ['-', c]

/-- The long spelling. -/
def long : Switch → String
  | help => "--help"
  | address => "--address"
  | addressType => "--address-type"
  | security => "--security"
  | mode => "--mode"
  | pollInterval => "--poll-interval"
  | reconnectDelay => "--reconnect-delay"
  | discoveryTimeout => "--discovery-timeout"
  | host => "--host"
  | port => "--port"
  | noWeb => "--no-web"
  | verbose => "--verbose"
  | quiet => "--quiet"

/-- The spellings, the short one first. -/
def spellings (s : Switch) : List String :=
  s.short?.toList ++ [s.long]

/-- The name of a switch in messages. -/
def title (s : Switch) : String :=
  "/".intercalate s.spellings

/-- The field that a switch sets, if it takes an argument. -/
def field? : Switch → Option Device.Field
  | help | noWeb | verbose | quiet => none
  | address => some .address
  | addressType => some .addressType
  | security => some .security
  | mode => some .ingestion
  | pollInterval => some .pollInterval
  | reconnectDelay => some .reconnectDelay
  | discoveryTimeout => some .discoveryTimeout
  | host => some .httpHost
  | port => some .httpPort

/-- Whether a switch stands alone. -/
def standsAlone (s : Switch) : Bool :=
  s.field?.isNone

/-- The switch with which a switch may not be combined. -/
def rival? : Switch → Option Switch
  | verbose => some quiet
  | quiet => some verbose
  | _ => none

/-- The switch with a spelling. -/
def ofSpelling? (spelling : String) : Option Switch :=
  all.find? fun s => spelling ∈ s.spellings

/-- The switch with a letter. -/
def ofLetter? (c : Char) : Option Switch :=
  all.find? fun s => s.letter? == some c

end Switch

end SensorLink.CommandLine
