/-
# Every setting of a command line gives something

A switch that takes an argument makes a setting of it; no such setting gives nothing.
What is not on the command line has no setting at all, so that leaving a switch out is
the only way of not overriding its field.
-/

import SensorLink.CommandLine.Parse
import SensorLink.Device.Environment
import SensorLink.Proofs.Outcome

namespace SensorLink.CommandLine

open Device (Field Setting)

/-- Every setting gives something. -/
def Giving (settings : List Setting) : Prop :=
  ∀ s ∈ settings, s.isNothing = false

theorem Giving.concat {settings : List Setting} {s : Setting} (giving : Giving settings)
    (more : s.isNothing = false) : Giving (settings ++ [s]) := by
  intro other member
  rcases List.mem_append.mp member with earlier | last
  · exact giving other earlier
  · rw [List.mem_singleton.mp last]
    exact more

variable {p q : Progress} {s : Switch} {field : Field} {given : String} {setting : Setting}

theorem isNothing_of_chosen {names : List String} {make : String → Setting}
    (gives : ∀ text, (make text).isNothing = false)
    (chose : chosen s names make given = .ok setting) : setting.isNothing = false := by
  unfold chosen at chose
  split at chose
  · injection chose with same
    rw [← same]
    exact gives given
  · exact nomatch chose

theorem isNothing_of_measured {make : Float → Setting}
    (gives : ∀ value, (make value).isNothing = false)
    (measure : measured s make given = .ok setting) : setting.isNothing = false := by
  unfold measured at measure
  split at measure
  · injection measure with same
    rw [← same]
    exact gives _
  · exact nomatch measure

/-- The setting that a text makes gives something; the end mark empties the field. -/
theorem isNothing_of_settingOf (made : settingOf s field given = .ok setting) :
    setting.isNothing = false := by
  unfold settingOf at made
  split at made
  · injection made with same
    rw [← same]
    rfl
  · cases field with
    | address | httpHost =>
      injection made with same
      rw [← same]
      rfl
    | addressType | security | ingestion => exact isNothing_of_chosen (fun _ => rfl) made
    | pollInterval | reconnectDelay | discoveryTimeout =>
      exact isNothing_of_measured (fun _ => rfl) made
    | httpPort =>
      simp only at made
      split at made
      · injection made with same
        rw [← same]
        rfl
      · exact nomatch made

theorem settings_raise (r : Request) (s : Switch) : (r.raise s).settings = r.settings := by
  cases s <;> rfl

/-- A switch that stands alone makes no setting. -/
theorem settings_takeAlone (taken : takeAlone p s = .ok q) :
    q.request.settings = p.request.settings := by
  unfold takeAlone at taken
  split at taken
  · exact nomatch taken
  · split at taken
    · exact nomatch taken
    · injection taken with same
      rw [← same]
      exact settings_raise p.request s

theorem giving_takeAlone (giving : Giving p.request.settings) (taken : takeAlone p s = .ok q) :
    Giving q.request.settings := by
  rwa [settings_takeAlone taken]

/-- A switch with its argument makes one setting. -/
theorem giving_takeWith (giving : Giving p.request.settings) (taken : takeWith p s given = .ok q) :
    Giving q.request.settings := by
  unfold takeWith at taken
  split at taken
  · exact nomatch taken
  · obtain ⟨setting, made, rfl⟩ := map_eq_ok_iff.mp taken
    exact giving.concat (isNothing_of_settingOf made)

/-- The text attached to a switch is its argument, or letters of switches that stand alone. -/
theorem giving_takeAttached {short : Bool} {attached : String} (giving : Giving p.request.settings)
    (taken : takeAttached p s short attached = .ok q) : Giving q.request.settings := by
  unfold takeAttached at taken
  split at taken
  · split at taken
    · obtain ⟨behind, -, taken⟩ := bind_eq_ok_iff.mp taken
      have same : q.request.settings = p.request.settings :=
        eq_of_foldlM_eq_ok (·.request.settings) (fun _ _ _ => settings_takeAlone) taken
      rwa [same]
    · exact nomatch taken
  · exact giving_takeWith giving taken

/-- Taking words keeps every setting giving something. -/
theorem giving_takeWords {words : List Word} (giving : Giving p.request.settings)
    (taken : takeWords p words = .ok q) : Giving q.request.settings := by
  fun_induction takeWords p words with
  | case1 => cases taken; exact giving
  | case2 _ _ _ ih => exact ih giving taken
  | case3 _ _ _ ih => exact ih giving taken
  | case4 _ _ _ _ _ ih =>
    obtain ⟨next, attached, later⟩ := bind_eq_ok_iff.mp taken
    exact ih next (giving_takeAttached giving attached) later
  | case5 => exact giving_takeAlone giving taken
  | case6 => exact nomatch taken
  | case7 _ _ _ _ _ _ ih =>
    obtain ⟨next, alone, later⟩ := bind_eq_ok_iff.mp taken
    exact ih next (giving_takeAlone giving alone) later
  | case8 _ _ _ _ _ _ ih =>
    obtain ⟨next, argument, later⟩ := bind_eq_ok_iff.mp taken
    exact ih next (giving_takeWith giving argument) later
  | case9 => exact nomatch taken

/-- Every setting of a command line that is accepted gives something. -/
theorem giving_parse {words : List String} {r : Request} (parsed : parse words = .ok r) :
    Giving r.settings := by
  unfold parse at parsed
  obtain ⟨sorted, -, parsed⟩ := bind_eq_ok_iff.mp parsed
  obtain ⟨p, taken, parsed⟩ := bind_eq_ok_iff.mp parsed
  split at parsed
  · injection parsed with same
    rw [← same]
    exact giving_takeWords (fun _ none => absurd none List.not_mem_nil) taken
  · exact nomatch parsed

end SensorLink.CommandLine
