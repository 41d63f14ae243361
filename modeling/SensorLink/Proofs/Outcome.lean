/-
# Outcomes

A computation that may fail ends in an error or in a value.  What a value of a longer
computation says about its steps, and which error a list of steps ends in, is stated
here once for all of them.
-/

namespace SensorLink

variable {ε α β : Type}

/-- Of two steps, both have a value if the second has one. -/
theorem bind_eq_ok_iff {x : Except ε α} {f : α → Except ε β} {b : β} :
    x >>= f = .ok b ↔ ∃ a, x = .ok a ∧ f a = .ok b := by
  cases x with
  | error e => exact ⟨nofun, nofun⟩
  | ok a => exact ⟨fun later => ⟨a, rfl, later⟩, fun ⟨_, same, later⟩ => by cases same; exact later⟩

theorem map_eq_ok_iff {x : Except ε α} {f : α → β} {b : β} :
    x.map f = .ok b ↔ ∃ a, x = .ok a ∧ f a = b := by
  cases x with
  | error e => exact ⟨nofun, nofun⟩
  | ok a => simp [Except.map]

variable {f : α → Except ε β} {g : α → β} {e : ε}

/-- Steps that each have a value have the list of these values. -/
theorem mapM_eq_ok {l : List α} (each : ∀ x ∈ l, f x = .ok (g x)) :
    l.mapM f = .ok (l.map g) := by
  induction l with
  | nil => rfl
  | cons x rest ih =>
    rw [List.mapM_cons, each x List.mem_cons_self,
      ih fun y member => each y (List.mem_cons_of_mem x member)]
    rfl

/-- The first error among several steps is their outcome. -/
theorem mapM_eq_error {before after : List α} {x : α} (earlier : ∀ y ∈ before, f y = .ok (g y))
    (here : f x = .error e) : (before ++ x :: after).mapM f = .error e := by
  rw [List.mapM_append, mapM_eq_ok earlier, List.mapM_cons, here]
  rfl

/-- If several steps end in an error, then one of them does. -/
theorem exists_of_mapM_eq_error {l : List α} (fails : l.mapM f = .error e) :
    ∃ x ∈ l, f x = .error e := by
  induction l with
  | nil => exact nomatch fails
  | cons x rest ih =>
    rw [List.mapM_cons] at fails
    cases here : f x with
    | error first =>
      rw [here] at fails
      cases fails
      exact ⟨x, List.mem_cons_self, here⟩
    | ok y =>
      cases later : rest.mapM f with
      | error other =>
        rw [here, later] at fails
        cases fails
        obtain ⟨z, member, failing⟩ := ih later
        exact ⟨z, List.mem_cons_of_mem x member, failing⟩
      | ok ys =>
        rw [here, later] at fails
        exact nomatch fails

/-- What no step changes, several steps in a row do not change. -/
theorem eq_of_foldlM_eq_ok {γ : Type} {step : α → β → Except ε α} (view : α → γ) {l : List β}
    {a b : α} (keeps : ∀ x y next, step x y = .ok next → view next = view x)
    (ended : l.foldlM step a = .ok b) : view b = view a := by
  induction l generalizing a with
  | nil =>
    injection ended with same
    rw [same]
  | cons y rest ih =>
    rw [List.foldlM_cons, bind_eq_ok_iff] at ended
    obtain ⟨next, first, later⟩ := ended
    rw [ih later, keeps a y next first]

end SensorLink
