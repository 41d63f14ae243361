/-
# Precedence

A field should have its override, or else what its variable reads as, or else its
default.  It does, in every configuration that is made.  But all variables are read before
any override is looked at, so a variable that cannot be read is an error even where
an override leaves nothing to read it for.  `byPrecedence` reads only the variables that
are needed; the outcomes agree unless the first unreadable variable is overridden.
-/

import SensorLink.Proofs.CommandLine.Giving
import SensorLink.Proofs.Device.Settings

namespace SensorLink.Device

/-- The defaults of all fields; for the address there is none. -/
def Values.standard : Values :=
  { address := "" }

/-- What overrides give a field: the last of them, if it gives anything. -/
def override? (overrides : List Setting) (field : Field) : Option Setting :=
  latest? (overrides.filter (!·.isNothing)) field

namespace Environment

variable {env other : Environment} {field : Field} {text : String}

/-- What the variable of a field reads as, if it is set, not empty and can be read. -/
def setting? (env : Environment) (field : Field) : Option Setting :=
  (env.text? (variableOf field)).bind (variableOf field).read?

/-- The text of the variable of a field, if it is set, not empty and cannot be read. -/
def unreadable? (env : Environment) (field : Field) : Option String :=
  (env.text? (variableOf field)).filter fun text => ((variableOf field).read? text).isNone

/-- The first field among several whose variable cannot be read, with its text. -/
def firstUnreadableOf? (env : Environment) (fields : List Field) : Option (Field × String) :=
  fields.findSome? fun field => (env.unreadable? field).map (field, ·)

/-- The first field whose variable cannot be read, with its text. -/
def firstUnreadable? (env : Environment) : Option (Field × String) :=
  env.firstUnreadableOf? Field.all

/-- What an environment gives a field, if anything: what its variable reads as. -/
def reading (env : Environment) (field : Field) : Except ConfigError (Option Setting) :=
  match env.unreadable? field with
  | some text => .error (.unreadable (variableOf field).name text)
  | none => .ok (env.setting? field)

end Environment

/-- The first available of an override and a variable. -/
def available (env : Environment) (overrides : List Setting) (field : Field) :
    Except ConfigError (Option Setting) :=
  match override? overrides field with
  | some s => .ok (some s)
  | none => env.reading field

namespace Config

/-- The configuration of exactly the given settings. -/
def assemble (settings : List Setting) : Except ConfigError Config :=
  match Values.ofSettings? settings with
  | some v => ofValues v
  | none => .error .addressMissing

/-- The outcome that precedence asks for: what is available for the fields is put over the
defaults and checked, and nothing else is looked at. -/
def byPrecedence (env : Environment) (overrides : List Setting) : Except ConfigError Config := do
  let given ← Field.all.mapM (available env overrides)
  assemble (given.filterMap id)

/-- What can be seen of an outcome: the error, or the settings of the configuration. -/
def seen (outcome : Except ConfigError Config) : Except ConfigError (Field → Setting) :=
  outcome.map fun c => c.setting

end Config

/-- A variable reads as a setting of its own field. -/
theorem field_of_read? {field : Field} {text : String} {s : Setting}
    (read : (variableOf field).read? text = some s) : s.field = field := by
  cases field <;> simp only [variableOf, Option.some.injEq, Option.map_eq_some_iff] at read
  all_goals first | rw [← read]; rfl | obtain ⟨_, -, rfl⟩ := read; rfl

/-- Different fields have different variables. -/
theorem name_variableOf_inj {field other : Field}
    (same : (variableOf field).name = (variableOf other).name) : field = other := by
  cases field <;> cases other <;> first | rfl | exact absurd same (by decide)

namespace Environment

variable {env other : Environment} {field : Field} {text : String}

theorem field_of_setting? {s : Setting} (given : env.setting? field = some s) :
    s.field = field := by
  obtain ⟨text, -, read⟩ := Option.bind_eq_some_iff.mp given
  exact field_of_read? read

theorem firstUnreadableOf?_cons (env : Environment) (field : Field) (rest : List Field) :
    env.firstUnreadableOf? (field :: rest) =
      ((env.unreadable? field).map (field, ·)).or (env.firstUnreadableOf? rest) := by
  simp only [firstUnreadableOf?, List.findSome?_cons]
  cases env.unreadable? field <;> rfl

/-- The variables are read in order; the first that cannot be read is the error. -/
theorem settings_map_variableOf (env : Environment) (fields : List Field) :
    env.settings (fields.map variableOf) =
      match env.firstUnreadableOf? fields with
      | some (field, text) => .error (.unreadable (variableOf field).name text)
      | none => .ok (fields.filterMap env.setting?) := by
  induction fields with
  | nil => rfl
  | cons field rest ih =>
    rw [List.map_cons, settings, ih, firstUnreadableOf?_cons, List.filterMap_cons, unreadable?,
      setting?]
    cases given : env.text? (variableOf field) with
    | none => rfl
    | some text =>
      cases read : (variableOf field).read? text with
      | none => simp only [Option.filter_some, read, Option.isNone_none, if_true, Option.map_some,
          Option.some_or]
      | some s =>
        simp only [Option.filter_some, read, Option.isNone_some, Bool.false_eq_true, if_false,
          Option.map_none, Option.bind_some, Option.none_or]
        cases env.firstUnreadableOf? rest <;> rfl

/-- Without an unreadable variable among several, none of these variables is unreadable. -/
theorem firstUnreadableOf?_eq_none_iff {fields : List Field} :
    env.firstUnreadableOf? fields = none ↔ ∀ field ∈ fields, env.unreadable? field = none := by
  simp only [firstUnreadableOf?, List.findSome?_eq_none_iff, Option.map_eq_none_iff]

/-- Environments that differ in the variable of one field only agree on the first unreadable
variable, unless that of the field is the first in either of them. -/
theorem firstUnreadableOf?_congr {fields : List Field}
    (same : ∀ another, another ≠ field → other.unreadable? another = env.unreadable? another)
    (notFirst : ∀ text, env.firstUnreadableOf? fields ≠ some (field, text))
    (notFirstOther : ∀ text, other.firstUnreadableOf? fields ≠ some (field, text)) :
    env.firstUnreadableOf? fields = other.firstUnreadableOf? fields := by
  induction fields with
  | nil => rfl
  | cons here rest ih =>
    rw [firstUnreadableOf?_cons] at notFirst notFirstOther
    rw [firstUnreadableOf?_cons, firstUnreadableOf?_cons]
    by_cases about : here = field
    · subst about
      cases status : env.unreadable? here with
      | some text => exact absurd (by rw [status]; rfl) (notFirst text)
      | none =>
        cases statusOther : other.unreadable? here with
        | some text => exact absurd (by rw [statusOther]; rfl) (notFirstOther text)
        | none =>
          rw [status] at notFirst
          rw [statusOther] at notFirstOther
          exact ih notFirst notFirstOther
    · rw [same here about] at notFirstOther ⊢
      cases status : env.unreadable? here with
      | some text => rfl
      | none =>
        rw [status] at notFirst notFirstOther
        exact ih notFirst notFirstOther

/-- Environments that differ in the variable of one field only read the same for all others. -/
theorem text?_congr {another : Field}
    (same : ∀ name, name ≠ (variableOf field).name → other.lookup name = env.lookup name)
    (apart : another ≠ field) :
    other.text? (variableOf another) = env.text? (variableOf another) := by
  unfold text?
  rw [same _ fun names => apart (name_variableOf_inj names)]

end Environment

/-- Of settings found for fields one by one, the last about a field is the one found for it. -/
theorem latest?_filterMap {found : Field → Option Setting}
    (about : ∀ field s, found field = some s → s.field = field) (fields : List Field)
    (field : Field) :
    latest? (fields.filterMap found) field = if field ∈ fields then found field else none := by
  induction fields with
  | nil => rfl
  | cons here rest ih =>
    rw [List.filterMap_cons]
    by_cases same : here = field
    · subst same
      cases given : found here with
      | none => simp [ih, given]
      | some s =>
        rw [latest?_cons, ih, about here s given, given]
        split <;> simp
    · have apart : field ≠ here := Ne.symm same
      cases given : found here with
      | none => simp [ih, apart]
      | some s =>
        rw [latest?_cons, ih, about here s given]
        simp [same, apart]

/-- Settings make values if one of them is about the address. -/
theorem Values.ofSettings?_eq (settings : List Setting) :
    ofSettings? settings =
      if (latest? settings .address).isSome then some (standard.putAll settings)
      else none := by
  have addressed : (latest? settings .address).isSome = settings.any (·.field = .address) := by
    rw [Bool.eq_iff_iff, latest?, List.find?_isSome]
    simp
  simp only [addressed]
  rfl

/-- No check says that a variable cannot be read. -/
theorem Values.fault?_ne_unreadable {v : Values} {name text : String} :
    v.fault? ≠ some (.unreadable name text) := by
  intro fails
  simp only [fault?, Option.orElse_eq_orElse, Option.orElse_eq_or, Option.or_eq_some_iff] at fails
  rcases fails with fails | ⟨-, fails | ⟨-, fails | ⟨-, fails | ⟨-, fails | ⟨-, fails | ⟨-, fails |
    ⟨-, fails⟩⟩⟩⟩⟩⟩⟩
  all_goals
    simp only [addressFault?, nameFault?, positiveFault?, limitFault?, portFault?] at fails
    split at fails <;> simp at fails

namespace Config

variable {settings others : List Setting} {v w : Values}

theorem seen_ofValues (v : Values) :
    seen (ofValues v) = v.fault?.elim (.ok v.setting) .error := by
  cases faults : v.fault? with
  | some e =>
    rw [ofValues_eq_error_iff.mpr faults]
    rfl
  | none =>
    rw [show ofValues v = .ok ⟨v, faults⟩ from ofValues_eq_ok_iff.mpr rfl]
    rfl

/-- Values are checked by what they give the fields. -/
theorem seen_ofValues_congr (same : v.setting = w.setting) :
    seen (ofValues v) = seen (ofValues w) := by
  rw [seen_ofValues, seen_ofValues, Values.fault?_congr same, same]

/-- Only the last setting of each field counts. -/
theorem seen_assemble_congr
    (same : ∀ field, latest? settings field = latest? others field) :
    seen (assemble settings) = seen (assemble others) := by
  unfold assemble
  rw [Values.ofSettings?_eq, Values.ofSettings?_eq, same]
  cases addressed : (latest? others .address).isSome with
  | false => rfl
  | true =>
    refine seen_ofValues_congr (funext fun field => ?_)
    rw [Values.setting_putAll, Values.setting_putAll, same]

/-- A variable that cannot be read is not a matter of putting settings together. -/
theorem assemble_ne_unreadable {name text : String} :
    assemble settings ≠ .error (.unreadable name text) := by
  unfold assemble
  split
  · rw [ne_eq, ofValues_eq_error_iff]
    exact Values.fault?_ne_unreadable
  · exact nofun

end Config

section

variable {env other : Environment} {overrides : List Setting} {field : Field} {text : String}

theorem available_eq_ok
    (readable : override? overrides field = none → env.unreadable? field = none) :
    available env overrides field = .ok ((override? overrides field).or (env.setting? field)) := by
  unfold available
  cases overridden : override? overrides field with
  | some s => rfl
  | none =>
    rw [Environment.reading, readable overridden]
    rfl

theorem available_eq_error_iff {e : ConfigError} :
    available env overrides field = .error e ↔
      override? overrides field = none ∧
        ∃ text, env.unreadable? field = some text ∧
          .unreadable (variableOf field).name text = e := by
  unfold available Environment.reading
  cases override? overrides field with
  | some s => simp
  | none => cases env.unreadable? field <;> simp

/-- Of the settings of an environment and of overrides, the last about a field is its override, or
else that of its variable. -/
theorem latest?_settings (env : Environment) (overrides : List Setting) (field : Field) :
    latest? (Field.all.filterMap env.setting? ++ overrides.filter (!·.isNothing)) field =
      (override? overrides field).or (env.setting? field) := by
  rw [latest?_append, latest?_filterMap fun _ _ => Environment.field_of_setting?,
    if_pos (Field.mem_all field)]
  rfl

namespace Config

/-- An unreadable variable is the outcome, whatever is overridden. -/
theorem ofEnvironment_of_unreadable (first : env.firstUnreadable? = some (field, text)) :
    ofEnvironment env (overrides.map .known) =
      .error (.unreadable (variableOf field).name text) := by
  have read := env.settings_map_variableOf Field.all
  rw [show env.firstUnreadableOf? Field.all = _ from first] at read
  rw [ofEnvironment, knownVariables, read]
  rfl

/-- If all variables can be read, their settings are put together with the overrides. -/
theorem ofEnvironment_of_readable (readable : env.firstUnreadable? = none) :
    ofEnvironment env (overrides.map .known) =
      assemble (Field.all.filterMap env.setting? ++ overrides.filter (!·.isNothing)) := by
  have read := env.settings_map_variableOf Field.all
  rw [show env.firstUnreadableOf? Field.all = _ from readable] at read
  rw [ofEnvironment, knownVariables, read, settingsOf_eq_ok_iff.mpr rfl]
  rfl

theorem seen_byPrecedence
    (readable : ∀ field, override? overrides field = none → env.unreadable? field = none) :
    seen (byPrecedence env overrides) =
      seen (assemble (Field.all.filterMap fun field =>
        (override? overrides field).or (env.setting? field))) := by
  rw [byPrecedence, mapM_eq_ok fun field _ => available_eq_ok (readable field)]
  change seen (assemble ((Field.all.map _).filterMap id)) = _
  rw [List.filterMap_map]
  rfl

theorem eq_error_of_seen {outcome : Except ConfigError Config} {e : ConfigError}
    (same : seen outcome = .error e) : outcome = .error e := by
  cases outcome with
  | ok c => exact nomatch same
  | error other =>
    have same : (.error other : Except ConfigError (Field → Setting)) = .error e := same
    injection same with same
    rw [same]

/-- Precedence asks for no variable that is overridden. -/
theorem override?_of_byPrecedence
    (fails : byPrecedence env overrides = .error (.unreadable (variableOf field).name text)) :
    override? overrides field = none := by
  unfold byPrecedence at fails
  cases read : Field.all.mapM (available env overrides) with
  | ok given =>
    rw [read] at fails
    exact absurd fails assemble_ne_unreadable
  | error e =>
    rw [read] at fails
    injection fails with same
    obtain ⟨here, -, failing⟩ := exists_of_mapM_eq_error read
    obtain ⟨needed, _, -, named⟩ := available_eq_error_iff.mp failing
    rw [same] at named
    injection named with names
    rwa [name_variableOf_inj names] at needed

/-- If the first unreadable variable is not overridden, then precedence asks for it. -/
theorem byPrecedence_of_unreadable (first : env.firstUnreadable? = some (field, text))
    (needed : override? overrides field = none) :
    byPrecedence env overrides = .error (.unreadable (variableOf field).name text) := by
  obtain ⟨before, here, after, listed, found, earlier⟩ := List.findSome?_eq_some_iff.mp first
  obtain ⟨_, unreadable, same⟩ := Option.map_eq_some_iff.mp found
  cases same
  have readable : ∀ another ∈ before, available env overrides another =
      .ok ((override? overrides another).or (env.setting? another)) := fun another member =>
    available_eq_ok fun _ => Option.map_eq_none_iff.mp (earlier another member)
  rw [byPrecedence, listed, mapM_eq_error readable
    (available_eq_error_iff.mpr ⟨needed, text, unreadable, rfl⟩)]
  rfl

/-- The outcome is that of the values that precedence asks for, unless the first unreadable variable
is overridden. -/
theorem seen_ofEnvironment_iff :
    seen (ofEnvironment env (overrides.map .known)) = seen (byPrecedence env overrides) ↔
      ∀ field text, env.firstUnreadable? = some (field, text) →
        override? overrides field = none := by
  cases first : env.firstUnreadable? with
  | none =>
    refine iff_of_true ?_ nofun
    have readable (field : Field) : env.unreadable? field = none :=
      Environment.firstUnreadableOf?_eq_none_iff.mp first field (Field.mem_all field)
    rw [ofEnvironment_of_readable first, seen_byPrecedence fun field _ => readable field]
    refine seen_assemble_congr fun field => ?_
    rw [latest?_settings, latest?_filterMap, if_pos (Field.mem_all field)]
    intro field s given
    rcases Option.or_eq_some_iff.mp given with override | ⟨-, read⟩
    · exact field_of_latest? override
    · exact Environment.field_of_setting? read
  | some found =>
    obtain ⟨here, shown⟩ := found
    rw [ofEnvironment_of_unreadable first]
    constructor
    · rintro same field text ⟨rfl, rfl⟩
      exact override?_of_byPrecedence (eq_error_of_seen same.symm)
    · intro spared
      rw [byPrecedence_of_unreadable first (spared here shown rfl)]

/-- An unreadable variable is the outcome exactly if it is the first one. -/
theorem ofEnvironment_eq_unreadable_iff (overrides : List Setting) :
    ofEnvironment env (overrides.map .known) = .error (.unreadable (variableOf field).name text) ↔
      env.firstUnreadable? = some (field, text) := by
  refine ⟨fun fails => ?_, ofEnvironment_of_unreadable⟩
  cases first : env.firstUnreadable? with
  | none =>
    rw [ofEnvironment_of_readable first] at fails
    exact absurd fails assemble_ne_unreadable
  | some found =>
    obtain ⟨here, shown⟩ := found
    rw [ofEnvironment_of_unreadable first] at fails
    injection fails with same
    injection same with names texts
    rw [name_variableOf_inj names, texts]

/-- Of environments that differ in the variable of an overridden field only, the outcomes are the
same unless that variable is the first unreadable one in either of them. -/
theorem seen_ofEnvironment_eq_iff {s : Setting} (overridden : override? overrides field = some s)
    (same : ∀ name, name ≠ (variableOf field).name → other.lookup name = env.lookup name) :
    seen (ofEnvironment env (overrides.map .known)) =
        seen (ofEnvironment other (overrides.map .known)) ↔
      ∀ text, env.firstUnreadable? = some (field, text) ↔
        other.firstUnreadable? = some (field, text) := by
  constructor
  · intro outcomes text
    rw [← ofEnvironment_eq_unreadable_iff overrides, ← ofEnvironment_eq_unreadable_iff overrides]
    constructor
    · intro fails
      rw [fails] at outcomes
      exact eq_error_of_seen outcomes.symm
    · intro fails
      rw [fails] at outcomes
      exact eq_error_of_seen outcomes
  · intro alike
    by_cases about : ∃ text, env.firstUnreadable? = some (field, text)
    · obtain ⟨text, first⟩ := about
      rw [ofEnvironment_of_unreadable first, ofEnvironment_of_unreadable ((alike text).mp first)]
    · have notFirst : ∀ text, env.firstUnreadable? ≠ some (field, text) :=
        fun text first => about ⟨text, first⟩
      have read (another : Field) (apart : another ≠ field) :=
        Environment.text?_congr same apart
      have firsts : env.firstUnreadable? = other.firstUnreadable? :=
        Environment.firstUnreadableOf?_congr
          (fun another apart => by rw [Environment.unreadable?, read another apart]; rfl)
          notFirst fun text first => notFirst text ((alike text).mpr first)
      cases first : env.firstUnreadable? with
      | some found =>
        rw [ofEnvironment_of_unreadable first,
          ofEnvironment_of_unreadable (firsts.symm.trans first)]
      | none =>
        rw [ofEnvironment_of_readable first, ofEnvironment_of_readable (firsts.symm.trans first)]
        refine seen_assemble_congr fun another => ?_
        rw [latest?_settings, latest?_settings]
        by_cases here : another = field
        · rw [here, overridden, Option.some_or, Option.some_or]
        · rw [Environment.setting?, Environment.setting?, read another here]

/-- Every field of a configuration has the first available of an override, a variable and the
default. -/
theorem setting_of_ofEnvironment {c : Config}
    (accepted : ofEnvironment env (overrides.map .known) = .ok c) (field : Field) :
    ∃ given, available env overrides field = .ok given ∧
      c.setting field = given.getD (Values.standard.setting field) := by
  cases first : env.firstUnreadable? with
  | some found =>
    rw [ofEnvironment_of_unreadable first] at accepted
    exact nomatch accepted
  | none =>
    have readable := Environment.firstUnreadableOf?_eq_none_iff.mp first field (Field.mem_all field)
    refine ⟨_, available_eq_ok fun _ => readable, ?_⟩
    rw [ofEnvironment_of_readable first, assemble, Values.ofSettings?_eq] at accepted
    split at accepted
    · rename_i v made
      split at made
      · cases made
        rw [ofValues_eq_ok_iff.mp accepted, Values.setting_putAll, latest?_settings]
      · exact nomatch made
    · exact nomatch accepted

end Config

end

/-- A request overrides a field with the setting that it has for the field, and leaves it alone if
it has none. -/
theorem override?_overrides {r : CommandLine.Request} (giving : CommandLine.Giving r.settings)
    (field : Field) : override? r.overrides field = r.setting? field := by
  have kept (fields : List Field) :
      (fields.map fun field => (r.setting? field).getD (.nothing field)).filter
        (!·.isNothing) = fields.filterMap r.setting? := by
    induction fields with
    | nil => rfl
    | cons here rest ih =>
      rw [List.map_cons, List.filterMap_cons, ← ih]
      cases given : r.setting? here with
      | none =>
        rw [Option.getD_none, List.filter_cons_of_neg (by simp [Setting.isNothing_nothing])]
      | some s =>
        have member : s ∈ r.settings := List.mem_reverse.mp (List.mem_of_find?_eq_some given)
        rw [Option.getD_some, List.filter_cons_of_pos (by rw [giving s member]; rfl)]
  have about (field : Field) (s : Setting) (given : r.setting? field = some s) : s.field = field :=
    field_of_latest? given
  rw [override?, CommandLine.Request.overrides, kept, latest?_filterMap about,
    if_pos (Field.mem_all field)]

namespace Config

/-- How an environment and overrides make a configuration. -/
structure Precedes (env : Environment) (overrides : List Setting) : Prop where
  /-- Every field of a configuration has the first available of its override, what its variable
  reads as, and its default. -/
  fields : ∀ c, ofEnvironment env (overrides.map .known) = .ok c → ∀ field,
    ∃ given, available env overrides field = .ok given ∧
      c.setting field = given.getD (Values.standard.setting field)
  /-- The first variable that cannot be read is the outcome, whatever is overridden. -/
  unreadable : ∀ field text,
    ofEnvironment env (overrides.map .known) = .error (.unreadable (variableOf field).name text) ↔
      env.firstUnreadable? = some (field, text)
  /-- So the outcome is that of exactly the available values, unless that variable is
  overridden. -/
  checked : seen (ofEnvironment env (overrides.map .known)) = seen (byPrecedence env overrides) ↔
    ∀ field text, env.firstUnreadable? = some (field, text) → override? overrides field = none
  /-- And the variable of an overridden field does not matter, unless it is the first unreadable
  one. -/
  ignored : ∀ field s, override? overrides field = some s → ∀ other : Environment,
    (∀ name, name ≠ (variableOf field).name → other.lookup name = env.lookup name) →
    (seen (ofEnvironment env (overrides.map .known)) =
        seen (ofEnvironment other (overrides.map .known)) ↔
      ∀ text, env.firstUnreadable? = some (field, text) ↔
        other.firstUnreadable? = some (field, text))
  /-- The overrides of a command line are the settings that it gives, and no others. -/
  commandLine : ∀ words (r : CommandLine.Request), CommandLine.parse words = .ok r →
    overrides = r.overrides → ∀ field, override? overrides field = r.setting? field

/-- **Precedence.** Overrides precede variables and variables precede defaults, for every
environment and all overrides, but not before every variable has been read. -/
theorem precedence (env : Environment) (overrides : List Setting) : Precedes env overrides where
  fields _ accepted := setting_of_ofEnvironment accepted
  unreadable _ _ := ofEnvironment_eq_unreadable_iff overrides
  checked := seen_ofEnvironment_iff
  ignored _ _ overridden _ same := seen_ofEnvironment_eq_iff overridden same
  commandLine words r parsed given field := by
    rw [given]
    exact override?_overrides (CommandLine.giving_parse parsed) field

/-- An override that gives nothing leaves its field to the variable. -/
example :
    ((ofEnvironment [("ENVSENSE_ADDRESS", "here"), ("ENVSENSE_SECURITY", "Medium")]
      [.known (.address "there"), .known (.nothing .security)]).toOption.map fun c =>
        (c.address, c.security)) = some ("there", "medium") := by
  decide +kernel

/-- A port that cannot be read is an error although another one overrides it; without it there is a
configuration. -/
theorem not_ignored_unreadable :
    override? [.httpPort 8081] .httpPort = some (.httpPort 8081) ∧
      ofEnvironment [("ENVSENSE_ADDRESS", "AA"), ("ENVSENSE_HTTP_PORT", "web")]
          [.known (.httpPort 8081)] = .error (.unreadable "ENVSENSE_HTTP_PORT" "web") ∧
      ∃ c, ofEnvironment [("ENVSENSE_ADDRESS", "AA")] [.known (.httpPort 8081)] = .ok c ∧
        c.httpPort = 8081 := by
  have first : Environment.firstUnreadable? [("ENVSENSE_ADDRESS", "AA"),
      ("ENVSENSE_HTTP_PORT", "web")] = some (.httpPort, "web") := by decide +kernel
  have readable : Environment.firstUnreadable? [("ENVSENSE_ADDRESS", "AA")] = none := by
    decide +kernel
  let values : Values := { address := "AA", httpPort := 8081 }
  have faultless : values.fault? = none := Option.isNone_iff_eq_none.mp (by decide +kernel)
  have made : Values.ofSettings? (Field.all.filterMap (Environment.setting?
      [("ENVSENSE_ADDRESS", "AA")]) ++ [.httpPort 8081]) = some values := by rfl
  have accepted : ofEnvironment [("ENVSENSE_ADDRESS", "AA")]
      ([Setting.httpPort 8081].map .known) = .ok ⟨values, faultless⟩ := by
    rw [ofEnvironment_of_readable readable]
    change assemble (_ ++ [.httpPort 8081]) = _
    rw [assemble, made]
    exact ofValues_eq_ok_iff.mpr rfl
  exact ⟨rfl, (ofEnvironment_eq_unreadable_iff [.httpPort 8081]).mpr first, _, accepted, rfl⟩

end Config

end SensorLink.Device
