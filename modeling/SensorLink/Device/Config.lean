/-
# The configuration of a device

Which peripheral to talk to, how, and where to show its readings.  Values become
a configuration only if every one of them passes its check; the checks run in a
fixed order and the first that fails is reported.  A field may also be given
without a value, which only the host allows.
-/

import SensorLink.Decimal.Style
import SensorLink.Failure
import SensorLink.Text.Blank

namespace SensorLink.Device

/-- The names of the address types. -/
def addressTypes : List String := ["public", "random"]

/-- The names of the security levels, from the lowest. -/
def securityLevels : List String := ["low", "medium", "high"]

/-- The names of the ways of ingestion. -/
def ingestionModes : List String := ["notify", "poll"]

/-- The fields of a configuration. -/
inductive Field where
  | address
  | addressType
  | security
  | ingestion
  | pollInterval
  | reconnectDelay
  | discoveryTimeout
  | httpHost
  | httpPort
  deriving DecidableEq, Repr

/-- All fields, in their fixed order. -/
def Field.all : List Field :=
  [address, addressType, security, ingestion, pollInterval, reconnectDelay, discoveryTimeout,
    httpHost, httpPort]

/-- Every field is listed. -/
theorem Field.mem_all (field : Field) : field ∈ all := by
  cases field <;> decide

/-- How a field is given without a value: as a list of no values, or as nothing. -/
inductive Vacancy where
  | emptied
  | void
  deriving DecidableEq, Repr

/-- The text that stands for the value. -/
def Vacancy.text : Vacancy → String
  | emptied => "[]"
  | void => "None"

/-- The name of what stands for the value. -/
def Vacancy.typeName : Vacancy → String
  | emptied => "list"
  | void => "NoneType"

/-- A field that is given without a value.  Nothing is a value for the limit of discovery, so that
one can only be emptied. -/
structure Gap where
  field : Field
  how : Vacancy
  valueless : field = .discoveryTimeout → how = .emptied

/-- Why values are no configuration. -/
inductive ConfigError where
  | addressBlank
  | notOneOf (field : String) (allowed : List String) (given : String)
  /-- No name is given. -/
  | vacantName (field : String) (allowed : List String) (given : Vacancy)
  /-- No limit is given, so that nothing can be compared with zero. -/
  | vacantLimit (given : Vacancy)
  /-- No port is given, so that zero cannot be compared with it. -/
  | vacantPort (given : Vacancy)
  | notPositive (field : String) (given : Float)
  | limitNotPositive (given : Float)
  | portOutOfRange (port : Int)
  /-- No address is given to a constructor. -/
  | addressRequired
  /-- No address is found anywhere. -/
  | addressMissing
  /-- A variable of the environment cannot be read. -/
  | unreadable (name text : String)
  /-- An override names no field. -/
  | unknownOverride (name : String)
  /-- An argument names no field. -/
  | unknownArgument (name : String)

namespace ConfigError

/-- The text of an error. -/
def message : ConfigError → String
  | addressBlank => "address must not be empty"
  | notOneOf field allowed given =>
    field ++ " must be one of (" ++ Text.quotedList allowed ++ "), got " ++ Text.quoted given
  | vacantName field allowed given =>
    field ++ " must be one of (" ++ Text.quotedList allowed ++ "), got " ++ given.text
  | vacantLimit given =>
    "'<=' not supported between instances of '" ++ given.typeName ++ "' and 'int'"
  | vacantPort given =>
    "'<' not supported between instances of 'int' and '" ++ given.typeName ++ "'"
  | notPositive field given => field ++ " must be > 0, got " ++ Decimal.showFloat given
  | limitNotPositive given =>
    "discovery_timeout must be > 0 or None, got " ++ Decimal.showFloat given
  | portOutOfRange port => "http_port out of range: " ++ toString port
  | addressRequired =>
    "DeviceConfig.__init__() missing 1 required positional argument: 'address'"
  | addressMissing => "No peripheral address; set ENVSENSE_ADDRESS or --address"
  | unreadable name text => "Invalid " ++ name ++ ": " ++ Text.quoted text
  | unknownOverride name => "Unknown config field: " ++ name
  | unknownArgument name =>
    "DeviceConfig.__init__() got an unexpected keyword argument '" ++ name ++ "'"

/-- The class of an error: a wrong choice of fields, no value, or a wrong value. -/
def kind : ConfigError → FailureClass
  | addressRequired | unknownOverride _ | unknownArgument _ | vacantLimit _ | vacantPort _ => .type
  | _ => .value

end ConfigError

/-- The values of a configuration, whether or not they pass the checks. -/
structure Values where
  address : String
  addressType : String := "random"
  security : String := "low"
  ingestion : String := "notify"
  pollInterval : Float := 2
  reconnectDelay : Float := 2
  discoveryTimeout : Option Float := none
  httpHost : String := "0.0.0.0"
  httpPort : Int := 8080
  /-- The fields that are given without a value; what stands in them does not matter. -/
  vacant : List Gap := []

/-- One field with its value. -/
inductive Setting where
  | address (value : String)
  | addressType (value : String)
  | security (value : String)
  | ingestion (value : String)
  | pollInterval (value : Float)
  | reconnectDelay (value : Float)
  | discoveryTimeout (value : Option Float)
  | httpHost (value : String)
  | httpPort (value : Int)
  | vacant (gap : Gap)

/-- The field of a setting. -/
def Setting.field : Setting → Field
  | address _ => .address
  | addressType _ => .addressType
  | security _ => .security
  | ingestion _ => .ingestion
  | pollInterval _ => .pollInterval
  | reconnectDelay _ => .reconnectDelay
  | discoveryTimeout _ => .discoveryTimeout
  | httpHost _ => .httpHost
  | httpPort _ => .httpPort
  | vacant gap => gap.field

/-- The setting that gives a field nothing. -/
def Setting.nothing (field : Field) : Setting :=
  if h : field = .discoveryTimeout then .discoveryTimeout none
  else .vacant ⟨field, .void, fun same => absurd same h⟩

namespace Values

/-- Give one field its value, if the setting has one. -/
def assign (v : Values) : Setting → Values
  | .address value => { v with address := value }
  | .addressType value => { v with addressType := value }
  | .security value => { v with security := value }
  | .ingestion value => { v with ingestion := value }
  | .pollInterval value => { v with pollInterval := value }
  | .reconnectDelay value => { v with reconnectDelay := value }
  | .discoveryTimeout value => { v with discoveryTimeout := value }
  | .httpHost value => { v with httpHost := value }
  | .httpPort value => { v with httpPort := value }
  | .vacant _ => v

/-- The gaps after a setting. -/
def gapsAfter (v : Values) (s : Setting) : List Gap :=
  let others := v.vacant.filter (·.field ≠ s.field)
  match s with
  | .vacant gap => gap :: others
  | _ => others

/-- Change one field. -/
def put (v : Values) (s : Setting) : Values :=
  { v.assign s with vacant := v.gapsAfter s }

/-- Change several fields in order. -/
def putAll (v : Values) (settings : List Setting) : Values :=
  settings.foldl put v

/-- The values of settings, with the defaults for all other fields, if an address is among
them. -/
def ofSettings? (settings : List Setting) : Option Values :=
  if settings.any (·.field = .address) then some (putAll { address := "" } settings) else none

/-- The gap in a field, if it is given without a value. -/
def gap? (v : Values) (field : Field) : Option Gap :=
  v.vacant.find? (·.field = field)

/-- How a field is given, if it is given without a value. -/
def vacancy? (v : Values) (field : Field) : Option Vacancy :=
  (v.gap? field).map Gap.how

/-- The text of the exposition's address. -/
def hostText (v : Values) : String :=
  (v.vacancy? .httpHost).elim v.httpHost Vacancy.text

/-- The check of the address. -/
def addressFault? (v : Values) : Option ConfigError :=
  if (v.vacancy? .address).isSome || (Text.trim v.address).isEmpty then some .addressBlank
  else none

/-- The check of a field that takes one of a few names. -/
def nameFault? (v : Values) (field : Field) (name : String) (allowed : List String)
    (given : String) : Option ConfigError :=
  match v.vacancy? field with
  | some how => some (.vacantName name allowed how)
  | none => if given ∈ allowed then none else some (.notOneOf name allowed given)

/-- The check of a field that takes a positive number. -/
def positiveFault? (v : Values) (field : Field) (name : String) (given : Float) :
    Option ConfigError :=
  match v.vacancy? field with
  | some how => some (.vacantLimit how)
  | none => if given ≤ 0 then some (.notPositive name given) else none

/-- The check of the limit of discovery. -/
def limitFault? (v : Values) : Option ConfigError :=
  match v.vacancy? .discoveryTimeout with
  | some how => some (.vacantLimit how)
  | none => (v.discoveryTimeout.filter fun limit => limit ≤ 0).map .limitNotPositive

/-- The check of the port. -/
def portFault? (v : Values) : Option ConfigError :=
  match v.vacancy? .httpPort with
  | some how => some (.vacantPort how)
  | none =>
    if 0 < v.httpPort ∧ v.httpPort < 65536 then none else some (.portOutOfRange v.httpPort)

/-- The first check that the values fail. -/
def fault? (v : Values) : Option ConfigError :=
  v.addressFault?
    <|> v.nameFault? .addressType "address_type" addressTypes v.addressType
    <|> v.nameFault? .security "security" securityLevels v.security
    <|> v.nameFault? .ingestion "ingestion" ingestionModes v.ingestion
    <|> v.positiveFault? .pollInterval "poll_interval" v.pollInterval
    <|> v.positiveFault? .reconnectDelay "reconnect_delay" v.reconnectDelay
    <|> v.limitFault?
    <|> v.portFault?

end Values

/-- Values that pass every check. -/
structure Config extends Values where
  faultless : toValues.fault? = none

/-- A field's value as an argument, or an argument that names no field. -/
inductive Argument where
  | known (s : Setting)
  | unknown (name : String)

/-- The settings of arguments; the first that names no field is the error. -/
def settingsOf (refuse : String → ConfigError) :
    List Argument → Except ConfigError (List Setting)
  | [] => .ok []
  | .known s :: rest => (settingsOf refuse rest).map (s :: ·)
  | .unknown name :: _ => .error (refuse name)

namespace Config

/-- Check values. -/
def ofValues (v : Values) : Except ConfigError Config :=
  match h : v.fault? with
  | some e => .error e
  | none => .ok { toValues := v, faultless := h }

/-- The configuration of arguments. -/
def ofArguments (arguments : List Argument) : Except ConfigError Config := do
  let settings ← settingsOf .unknownArgument arguments
  match Values.ofSettings? settings with
  | some v => ofValues v
  | none => .error .addressRequired

/-- Another configuration, with some fields changed. -/
def withChanges (c : Config) (changes : List Argument) : Except ConfigError Config := do
  let settings ← settingsOf .unknownArgument changes
  ofValues (c.toValues.putAll settings)

end Config

end SensorLink.Device
