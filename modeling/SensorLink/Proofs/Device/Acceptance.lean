/-
# What every configuration promises

Whichever way the values of a configuration come, as arguments, from an environment with
overrides, or as changes of another configuration, they have passed the same checks.  The
checks turn away what they name, and so they are as good as the positive demands, with one
exception: a number of seconds is turned away if it is at most zero, and what is not a
number is not at most zero.  Even so the interface can be built from every configuration,
since the checks of the schedule and of the way of ingestion are made in the same manner.
-/

import SensorLink.Link.Seconds
import SensorLink.Proofs.Decimal.Order
import SensorLink.Proofs.Device.Settings

namespace SensorLink

open Decimal.Binary64 (isNotANumber notANumber not_le_zero_iff not_lt_self
  not_zero_lt_of_isNotANumber)

theorem Text.stripBy_eq_nil_iff {class? : Char → Bool} {cs : List Char} :
    stripBy class? cs = [] ↔ ∀ c ∈ cs, class? c = true := by
  rw [stripBy, List.reverse_eq_nil_iff, List.dropWhile_eq_nil_iff]
  constructor
  · intro late c member
    rw [← List.takeWhile_append_dropWhile (p := class?) (l := cs), List.mem_append] at member
    rcases member with early | rest
    · exact List.mem_takeWhile_imp early
    · exact late c (List.mem_reverse.mpr rest)
  · intro all c member
    exact all c ((List.dropWhile_sublist class?).subset (List.mem_reverse.mp member))

/-- Nothing is left of a text exactly if all of it is blank. -/
theorem Text.isEmpty_trim_iff {s : String} :
    (trim s).isEmpty = true ↔ ∀ c ∈ s.toList, isBlank c = true := by
  rw [trim, String.isEmpty_iff, String.ofList_eq_empty_iff, stripBy_eq_nil_iff]

namespace Device

namespace Values

variable {v : Values} {positive stronger : Float → Prop}

/-- What is asked of values, if `positive` says which numbers of seconds are positive. -/
structure Passes (positive : Float → Prop) (v : Values) : Prop where
  /-- Only the host may be given without a value. -/
  given : ∀ field how, v.vacancy? field = some how → field = .httpHost
  /-- Some character of the address is not blank. -/
  address : ∃ c ∈ v.address.toList, Text.isBlank c = false
  addressType : v.addressType ∈ addressTypes
  security : v.security ∈ securityLevels
  ingestion : v.ingestion ∈ ingestionModes
  pollInterval : positive v.pollInterval
  reconnectDelay : positive v.reconnectDelay
  discoveryTimeout : ∀ limit ∈ v.discoveryTimeout, positive limit
  httpPort : 0 < v.httpPort ∧ v.httpPort < 65536

/-- Values that can be used: all numbers of seconds are above zero. -/
abbrev Usable (v : Values) : Prop :=
  v.Passes (0 < ·)

/-- The numbers of seconds among values. -/
def seconds (v : Values) : List Float :=
  v.pollInterval :: v.reconnectDelay :: v.discoveryTimeout.toList

theorem Passes.vacancy?_eq_none (passes : v.Passes positive) {field : Field}
    (other : field ≠ .httpHost) : v.vacancy? field = none := by
  by_contra vacant
  obtain ⟨how, vacant⟩ := Option.ne_none_iff_exists'.mp vacant
  exact other (passes.given field how vacant)

/-- Only the numbers of seconds matter for what counts as positive. -/
theorem Passes.imp (passes : v.Passes positive)
    (implies : ∀ x ∈ v.seconds, positive x → stronger x) : v.Passes stronger where
  given := passes.given
  address := passes.address
  addressType := passes.addressType
  security := passes.security
  ingestion := passes.ingestion
  pollInterval := implies _ (by simp [seconds]) passes.pollInterval
  reconnectDelay := implies _ (by simp [seconds]) passes.reconnectDelay
  discoveryTimeout limit given := implies limit
    (by simp [seconds, Option.mem_def.mp given]) (passes.discoveryTimeout limit given)
  httpPort := passes.httpPort

theorem Passes.of_mem_seconds (passes : v.Passes positive) : ∀ x ∈ v.seconds, positive x := by
  simp only [seconds, List.forall_mem_cons, Option.mem_toList]
  exact ⟨passes.pollInterval, passes.reconnectDelay, passes.discoveryTimeout⟩

theorem addressFault?_eq_none_iff :
    v.addressFault? = none ↔
      v.vacancy? .address = none ∧ ∃ c ∈ v.address.toList, Text.isBlank c = false := by
  simp only [addressFault?, ite_eq_right_iff, reduceCtorEq, imp_false, Bool.or_eq_true, not_or,
    Bool.not_eq_true, Option.isSome_eq_false_iff, Option.isNone_iff_eq_none, Text.isEmpty_trim_iff,
    not_forall, exists_prop]

theorem nameFault?_eq_none_iff {field : Field} {name : String} {allowed : List String}
    {given : String} :
    v.nameFault? field name allowed given = none ↔ v.vacancy? field = none ∧ given ∈ allowed := by
  unfold nameFault?
  cases v.vacancy? field <;> simp

theorem positiveFault?_eq_none_iff {field : Field} {name : String} {given : Float} :
    v.positiveFault? field name given = none ↔ v.vacancy? field = none ∧ ¬given ≤ 0 := by
  unfold positiveFault?
  cases v.vacancy? field <;> simp

theorem limitFault?_eq_none_iff :
    v.limitFault? = none ↔
      v.vacancy? .discoveryTimeout = none ∧ ∀ limit ∈ v.discoveryTimeout, ¬limit ≤ 0 := by
  unfold limitFault?
  cases v.vacancy? .discoveryTimeout <;> simp [Option.filter_eq_none_iff]

theorem portFault?_eq_none_iff :
    v.portFault? = none ↔
      v.vacancy? .httpPort = none ∧ 0 < v.httpPort ∧ v.httpPort < 65536 := by
  unfold portFault?
  cases v.vacancy? .httpPort <;> simp

/-- No check fails exactly if the values are as asked for and every number of seconds is not at most
zero. -/
theorem fault?_eq_none_iff : v.fault? = none ↔ v.Passes (fun x => ¬x ≤ 0) := by
  simp only [fault?, Option.orElse_eq_orElse, Option.orElse_eq_or, Option.or_eq_none_iff,
    addressFault?_eq_none_iff, nameFault?_eq_none_iff, positiveFault?_eq_none_iff,
    limitFault?_eq_none_iff, portFault?_eq_none_iff]
  constructor
  · rintro ⟨⟨_, address⟩, ⟨_, addressType⟩, ⟨_, security⟩, ⟨_, ingestion⟩, ⟨_, interval⟩,
      ⟨_, delay⟩, ⟨_, limit⟩, ⟨_, port⟩⟩
    refine ⟨?_, address, addressType, security, ingestion, interval, delay, limit, port⟩
    intro field how vacant
    cases field with
    | httpHost => rfl
    | _ => simp_all
  · intro passes
    have given {field : Field} (other : field ≠ .httpHost) := passes.vacancy?_eq_none other
    exact ⟨⟨given nofun, passes.address⟩, ⟨given nofun, passes.addressType⟩,
      ⟨given nofun, passes.security⟩, ⟨given nofun, passes.ingestion⟩,
      ⟨given nofun, passes.pollInterval⟩, ⟨given nofun, passes.reconnectDelay⟩,
      ⟨given nofun, passes.discoveryTimeout⟩, ⟨given nofun, passes.httpPort⟩⟩

end Values

namespace Config

/-- The values that make a configuration: a number of seconds is positive, or not a number. -/
theorem exists_iff {v : Values} :
    (∃ c : Config, c.toValues = v) ↔ v.Passes fun x => 0 < x ∨ isNotANumber x = true := by
  simp only [← not_le_zero_iff]
  rw [← Values.fault?_eq_none_iff]
  constructor
  · rintro ⟨c, rfl⟩
    exact c.faultless
  · intro faultless
    exact ⟨⟨v, faultless⟩, rfl⟩

/-- A configuration can be used exactly if its numbers of seconds are numbers. -/
theorem usable_iff (c : Config) : c.Usable ↔ ∀ x ∈ c.seconds, isNotANumber x = false := by
  constructor
  · intro usable x member
    by_contra nan
    exact not_zero_lt_of_isNotANumber (by simpa using nan) (usable.of_mem_seconds x member)
  · intro numbers
    refine (exists_iff.mp ⟨c, rfl⟩).imp fun x member passed => ?_
    rcases passed with positive | nan
    · exact positive
    · rw [numbers x member] at nan
      exact nomatch nan

/-- The interface and the ingestion of every connection can be built from a configuration. -/
theorem exists_choices (c : Config) :
    ∃ choices, Link.Choices.ofConfig c = .ok choices ∧
      ∃ mode, choices.settings.mode = .ok mode := by
  have passes := Values.fault?_eq_none_iff.mp c.faultless
  have schedule : Retry.Schedule.fixed c.reconnectDelay =
      .ok ⟨c.reconnectDelay, c.reconnectDelay, 1⟩ :=
    Retry.Schedule.make_eq_ok passes.reconnectDelay (not_lt_self _) (not_lt_self 1)
  refine ⟨_, by rw [Link.Choices.ofConfig, schedule]; rfl, ?_⟩
  refine Link.Mode.exists_named_eq_ok.mpr ?_
  rcases List.mem_pair.mp passes.ingestion with notify | poll
  · exact .inl notify
  · exact .inr ⟨poll, passes.pollInterval⟩

/-- Changes make another configuration: its fields have the last change that is about them, and
those without a change keep their settings. -/
theorem setting_withChanges {c changed : Config} {changes : List Argument}
    (accepted : c.withChanges changes = .ok changed) :
    ∃ settings : List Setting, changes = settings.map .known ∧
      ∀ field, changed.setting field = (latest? settings field).getD (c.setting field) := by
  obtain ⟨settings, known, accepted⟩ := bind_eq_ok_iff.mp accepted
  refine ⟨settings, settingsOf_eq_ok_iff.mp known, fun field => ?_⟩
  rw [ofValues_eq_ok_iff.mp accepted, Values.setting_putAll]

/-- What every configuration promises. -/
structure Promises (c : Config) : Prop where
  /-- All that is asked of it holds, except that a number of seconds need not be a number. -/
  passes : c.Passes fun x => 0 < x ∨ isNotANumber x = true
  /-- It can be used if they all are numbers, and only then. -/
  usable_iff : c.Usable ↔ ∀ x ∈ c.seconds, isNotANumber x = false
  /-- In either case the interface with its fixed schedule can be built from it, and so can the
  ingestion of every connection. -/
  serves : ∃ choices, Link.Choices.ofConfig c = .ok choices ∧
    ∃ mode, choices.settings.mode = .ok mode
  /-- Changing it gives another configuration, which differs in the changed fields only. -/
  changes : ∀ changes changed, c.withChanges changes = .ok changed →
    ∃ settings : List Setting, changes = settings.map .known ∧
      ∀ field, changed.setting field = (latest? settings field).getD (c.setting field)

/-- **Acceptance.** Every configuration, whichever way it was obtained, is as it is asked to be
up to numbers of seconds that are not numbers, and the interface can be built from it. -/
theorem promises (c : Config) : c.Promises where
  passes := exists_iff.mp ⟨c, rfl⟩
  usable_iff := c.usable_iff
  serves := c.exists_choices
  changes _ _ accepted := setting_withChanges accepted

/-- An interval that is not a number is accepted, although it is not positive. -/
theorem not_usable_notANumber :
    ∃ c, ofArguments [.known (.address "AA"), .known (.pollInterval notANumber)] = .ok c ∧
      ¬0 < c.pollInterval ∧ ¬c.Usable := by
  have nan : isNotANumber notANumber = true := by decide
  have unordered : ¬0 < notANumber := not_zero_lt_of_isNotANumber nan
  let values : Values := { address := "AA", pollInterval := notANumber }
  obtain ⟨c, made⟩ : ∃ c : Config, c.toValues = values := exists_iff.mpr
    { given := nofun
      address := ⟨'A', by decide, by decide⟩
      addressType := by decide
      security := by decide
      ingestion := by decide
      pollInterval := .inr nan
      reconnectDelay := .inl (by decide)
      discoveryTimeout := nofun
      httpPort := by decide }
  have given : Values.ofSettings? [.address "AA", .pollInterval notANumber] = some values := rfl
  refine ⟨c, ?_, ?_, fun usable => ?_⟩
  · simp only [ofArguments, settingsOf, Except.map, bind, Except.bind, given]
    exact ofValues_eq_ok_iff.mpr made
  · rw [made]
    exact unordered
  · have interval := usable.pollInterval
    rw [made] at interval
    exact unordered interval

end Config

end Device

end SensorLink
