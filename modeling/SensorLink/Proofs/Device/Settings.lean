/-
# What values give each field

A field of values either holds a value or has a gap, and whatever still stands behind a
gap is never looked at.  So what matters about values is one setting for every field.
Changes are made one after the other and leave each field with the last setting that is
about it; the checks depend on nothing but the settings.
-/

import SensorLink.Device.Config
import SensorLink.Proofs.Outcome

namespace SensorLink.Device

/-- The last setting of a field in a list. -/
def latest? (settings : List Setting) (field : Field) : Option Setting :=
  settings.reverse.find? (·.field = field)

/-- Of two lists, the later one counts if it is about the field at all. -/
theorem latest?_append (earlier later : List Setting) (field : Field) :
    latest? (earlier ++ later) field = (latest? later field).or (latest? earlier field) := by
  rw [latest?, List.reverse_append, List.find?_append]
  rfl

theorem latest?_cons (s : Setting) (rest : List Setting) (field : Field) :
    latest? (s :: rest) field =
      (latest? rest field).or (if s.field = field then some s else none) := by
  have first : latest? [s] field = if s.field = field then some s else none := by
    by_cases about : s.field = field <;> simp [latest?, about]
  rw [← List.singleton_append, latest?_append, first]

/-- The last setting of a field is about that field. -/
theorem field_of_latest? {settings : List Setting} {field : Field} {s : Setting}
    (last : latest? settings field = some s) : s.field = field := by
  have about := List.find?_some last
  exact of_decide_eq_true about

/-- The gap that a setting leaves in its field, if it does. -/
def Setting.gap? : Setting → Option Gap
  | .vacant gap => some gap
  | _ => none

namespace Values

variable {v w : Values}

/-- The value that stands in a field, whether or not the field is vacant. -/
def standing (v : Values) : Field → Setting
  | .address => .address v.address
  | .addressType => .addressType v.addressType
  | .security => .security v.security
  | .ingestion => .ingestion v.ingestion
  | .pollInterval => .pollInterval v.pollInterval
  | .reconnectDelay => .reconnectDelay v.reconnectDelay
  | .discoveryTimeout => .discoveryTimeout v.discoveryTimeout
  | .httpHost => .httpHost v.httpHost
  | .httpPort => .httpPort v.httpPort

/-- What values give a field: its value, unless the field is vacant. -/
def setting (v : Values) (field : Field) : Setting :=
  (v.gap? field).elim (v.standing field) .vacant

theorem setting_of_vacant {field : Field} {gap : Gap} (vacant : v.gap? field = some gap) :
    v.setting field = .vacant gap := by
  rw [setting, vacant]
  rfl

theorem setting_of_given {field : Field} (given : v.gap? field = none) :
    v.setting field = v.standing field := by
  rw [setting, given]
  rfl

/-- A gap can be told from every value. -/
theorem standing_ne_vacant (field : Field) (gap : Gap) : v.standing field ≠ .vacant gap := by
  cases field <;> exact nofun

theorem setting_eq_vacant_iff {field : Field} {gap : Gap} :
    v.setting field = .vacant gap ↔ v.gap? field = some gap := by
  refine ⟨fun vacant => ?_, setting_of_vacant⟩
  cases status : v.gap? field with
  | none =>
    rw [setting_of_given status] at vacant
    exact absurd vacant (standing_ne_vacant field gap)
  | some other =>
    rw [setting_of_vacant status] at vacant
    exact congrArg some (Setting.vacant.inj vacant)

/-- A change makes its field vacant, or fills its gap, and leaves all other fields alone. -/
theorem gap?_put (v : Values) (s : Setting) (field : Field) :
    (v.put s).gap? field = if s.field = field then s.gap? else v.gap? field := by
  have others (gone : Field) : (v.vacant.filter (·.field ≠ gone)).find? (·.field = field) =
      if gone = field then none else v.gap? field := by
    rw [List.find?_filter]
    by_cases about : gone = field
    · simp [about]
    · rw [if_neg about, gap?]
      congr 1
      funext gap
      by_cases same : gap.field = field <;> simp [same, Ne.symm about]
  cases s with
  | vacant gap =>
    change (gap :: v.vacant.filter (·.field ≠ gap.field)).find? (·.field = field) =
      if gap.field = field then some gap else v.gap? field
    rw [List.find?_cons, others]
    by_cases about : gap.field = field <;> simp [about]
  | _ => exact others _

/-- A change leaves what stands in all other fields. -/
theorem standing_put_of_ne (v : Values) {s : Setting} {field : Field} (other : s.field ≠ field) :
    (v.put s).standing field = v.standing field := by
  cases s <;> cases field <;> first | exact absurd rfl other | rfl

/-- A change gives its field the new setting and leaves all others alone. -/
theorem setting_put (v : Values) (s : Setting) (field : Field) :
    (v.put s).setting field = if s.field = field then s else v.setting field := by
  rw [setting, gap?_put]
  split
  · rename_i about
    subst about
    cases s <;> rfl
  · rename_i other
    rw [standing_put_of_ne v other]
    rfl

/-- After several changes a field has the last setting that is about it. -/
theorem setting_putAll (v : Values) (settings : List Setting) (field : Field) :
    (v.putAll settings).setting field = (latest? settings field).getD (v.setting field) := by
  induction settings generalizing v with
  | nil => rfl
  | cons s rest ih =>
    have step : v.putAll (s :: rest) = (v.put s).putAll rest := rfl
    rw [step, ih, setting_put, latest?_cons, Option.getD_or]
    split <;> rfl

/-- Fields with the same setting are vacant in the same way, and without a vacancy they hold the
same value. -/
theorem same_field {field : Field} (same : v.setting field = w.setting field) :
    v.vacancy? field = w.vacancy? field ∧
      (v.vacancy? field = none → v.standing field = w.standing field) := by
  unfold vacancy?
  cases status : v.gap? field with
  | some gap =>
    rw [setting_of_vacant status, eq_comm, setting_eq_vacant_iff] at same
    rw [same]
    exact ⟨rfl, nofun⟩
  | none =>
    cases other : w.gap? field with
    | some gap =>
      rw [setting_of_vacant other, setting_eq_vacant_iff, status] at same
      exact nomatch same
    | none =>
      rw [setting_of_given status, setting_of_given other] at same
      exact ⟨rfl, fun _ => same⟩

theorem addressFault?_congr (same : v.setting .address = w.setting .address) :
    v.addressFault? = w.addressFault? := by
  obtain ⟨vacancy, value⟩ := same_field same
  unfold addressFault?
  rw [← vacancy]
  cases status : v.vacancy? .address with
  | some how => simp only [Option.isSome_some, Bool.true_or]
  | none => rw [Setting.address.inj (value status)]

theorem nameFault?_congr {field : Field} {name : String} {allowed : List String}
    {given other : String} (vacancy : v.vacancy? field = w.vacancy? field)
    (value : v.vacancy? field = none → given = other) :
    v.nameFault? field name allowed given = w.nameFault? field name allowed other := by
  unfold nameFault?
  rw [← vacancy]
  cases status : v.vacancy? field with
  | some how => rfl
  | none => rw [value status]

theorem positiveFault?_congr {field : Field} {name : String} {given other : Float}
    (vacancy : v.vacancy? field = w.vacancy? field)
    (value : v.vacancy? field = none → given = other) :
    v.positiveFault? field name given = w.positiveFault? field name other := by
  unfold positiveFault?
  rw [← vacancy]
  cases status : v.vacancy? field with
  | some how => rfl
  | none => rw [value status]

theorem limitFault?_congr (same : v.setting .discoveryTimeout = w.setting .discoveryTimeout) :
    v.limitFault? = w.limitFault? := by
  obtain ⟨vacancy, value⟩ := same_field same
  unfold limitFault?
  rw [← vacancy]
  cases status : v.vacancy? .discoveryTimeout with
  | some how => rfl
  | none => rw [Setting.discoveryTimeout.inj (value status)]

theorem portFault?_congr (same : v.setting .httpPort = w.setting .httpPort) :
    v.portFault? = w.portFault? := by
  obtain ⟨vacancy, value⟩ := same_field same
  unfold portFault?
  rw [← vacancy]
  cases status : v.vacancy? .httpPort with
  | some how => rfl
  | none => rw [Setting.httpPort.inj (value status)]

/-- The checks depend on nothing but the settings. -/
theorem fault?_congr (same : v.setting = w.setting) : v.fault? = w.fault? := by
  have field (field : Field) := same_field (congrFun same field)
  unfold fault?
  rw [addressFault?_congr (congrFun same .address),
    nameFault?_congr (field .addressType).1 fun given =>
      Setting.addressType.inj ((field .addressType).2 given),
    nameFault?_congr (field .security).1 fun given =>
      Setting.security.inj ((field .security).2 given),
    nameFault?_congr (field .ingestion).1 fun given =>
      Setting.ingestion.inj ((field .ingestion).2 given),
    positiveFault?_congr (field .pollInterval).1 fun given =>
      Setting.pollInterval.inj ((field .pollInterval).2 given),
    positiveFault?_congr (field .reconnectDelay).1 fun given =>
      Setting.reconnectDelay.inj ((field .reconnectDelay).2 given),
    limitFault?_congr (congrFun same .discoveryTimeout),
    portFault?_congr (congrFun same .httpPort)]

end Values

/-- Arguments give settings if each of them names a field. -/
theorem settingsOf_eq_ok_iff {refuse : String → ConfigError} {arguments : List Argument}
    {settings : List Setting} :
    settingsOf refuse arguments = .ok settings ↔ arguments = settings.map .known := by
  induction arguments generalizing settings with
  | nil => simp [settingsOf, eq_comm]
  | cons argument rest ih =>
    cases argument with
    | unknown name => cases settings <;> simp [settingsOf]
    | known s =>
      rw [settingsOf, map_eq_ok_iff]
      simp only [ih]
      cases settings with
      | nil => simp
      | cons first others =>
        simp only [List.cons.injEq, List.map_cons, Argument.known.injEq]
        constructor
        · rintro ⟨tail, given, rfl, rfl⟩
          exact ⟨rfl, given⟩
        · rintro ⟨rfl, given⟩
          exact ⟨others, given, rfl, rfl⟩

namespace Config

/-- Values become a configuration of exactly these values, if no check fails. -/
theorem ofValues_eq_ok_iff {v : Values} {c : Config} : ofValues v = .ok c ↔ c.toValues = v := by
  unfold ofValues
  split
  · rename_i e failing
    refine ⟨nofun, fun same => ?_⟩
    rw [← same, c.faultless] at failing
    exact nomatch failing
  · obtain ⟨values, faultless⟩ := c
    simp [eq_comm]

/-- A check that fails is reported. -/
theorem ofValues_eq_error_iff {v : Values} {e : ConfigError} :
    ofValues v = .error e ↔ v.fault? = some e := by
  unfold ofValues
  split
  · rename_i failing
    simp [failing]
  · rename_i faultless
    simp [faultless]

end Config

end SensorLink.Device
