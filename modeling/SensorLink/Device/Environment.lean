/-
# Configuration from the environment

Every field can be set by a variable of the environment.  An override takes
precedence over the variable, and the variable over the field's default; an empty
variable counts as absent, and so does an override that gives nothing.  A variable
that cannot be read is an error even if its field is overridden.
-/

import SensorLink.Decimal.Numeral
import SensorLink.Device.Config
import SensorLink.Text.Lowercase

namespace SensorLink.Device

/-- The variables of an environment with their texts. -/
abbrev Environment := List (String × String)

/-- How a variable is read. -/
structure Variable where
  /-- Its name after the common beginning. -/
  suffix : String
  read? : String → Option Setting

/-- How the names of all variables begin. -/
def commonBeginning : String := "ENVSENSE_"

/-- The full name of a variable. -/
def Variable.name (v : Variable) : String :=
  commonBeginning ++ v.suffix

/-- The variable that sets a field. -/
def variableOf : Field → Variable
  | .address => ⟨"ADDRESS", fun s => some (.address s)⟩
  | .addressType => ⟨"ADDRESS_TYPE", fun s => some (.addressType (Text.lowercase s))⟩
  | .security => ⟨"SECURITY", fun s => some (.security (Text.lowercase s))⟩
  | .ingestion => ⟨"INGESTION", fun s => some (.ingestion (Text.lowercase s))⟩
  | .pollInterval => ⟨"POLL_INTERVAL", fun s => (Decimal.readFloat? s).map .pollInterval⟩
  | .reconnectDelay => ⟨"RECONNECT_DELAY", fun s => (Decimal.readFloat? s).map .reconnectDelay⟩
  | .discoveryTimeout =>
    ⟨"DISCOVERY_TIMEOUT", fun s => (Decimal.readFloat? s).map fun x => .discoveryTimeout (some x)⟩
  | .httpHost => ⟨"HTTP_HOST", fun s => some (.httpHost s)⟩
  | .httpPort => ⟨"HTTP_PORT", fun s => (Decimal.readInteger? s).map .httpPort⟩

/-- The variables, in the order in which they are read. -/
def knownVariables : List Variable :=
  Field.all.map variableOf

/-- The text of a variable, if it is set and not empty. -/
def Environment.text? (env : Environment) (v : Variable) : Option String :=
  (env.lookup v.name).filter fun text => !text.isEmpty

/-- The settings that variables make. -/
def Environment.settings (env : Environment) : List Variable → Except ConfigError (List Setting)
  | [] => .ok []
  | v :: rest =>
    match env.text? v with
    | none => env.settings rest
    | some text =>
      match v.read? text with
      | none => .error (.unreadable v.name text)
      | some s => (env.settings rest).map (s :: ·)

/-- Whether a setting gives nothing, and so overrides nothing. -/
def Setting.isNothing : Setting → Bool
  | vacant ⟨_, .void, _⟩ | discoveryTimeout none => true
  | _ => false

theorem Setting.isNothing_nothing (field : Field) : (nothing field).isNothing = true := by
  cases field <;> rfl

/-- The configuration that an environment and overrides make. -/
def Config.ofEnvironment (env : Environment) (overrides : List Argument) :
    Except ConfigError Config := do
  let fromVariables ← env.settings knownVariables
  let fromOverrides ← settingsOf .unknownOverride overrides
  match Values.ofSettings? (fromVariables ++ fromOverrides.filter (!·.isNothing)) with
  | some v => ofValues v
  | none => .error .addressMissing

end SensorLink.Device
