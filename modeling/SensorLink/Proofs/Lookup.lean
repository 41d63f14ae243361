/-
# Look-ups in a table

A table is a list of keys and what they are for; the first entry of a key counts.
-/

namespace SensorLink

variable {α β : Type} [BEq α] [LawfulBEq α]

/-- The first entry of a key decides. -/
theorem lookup_cons_eq_ite [DecidableEq α] (table : List (α × β)) (first key : α) (value : β) :
    ((first, value) :: table).lookup key =
      if key = first then some value else table.lookup key := by
  by_cases same : key = first
  · simp [same]
  · rw [List.lookup_cons, beq_false_of_ne same, if_neg same]

/-- Taking a key out of the table leaves the entries of all others. -/
theorem lookup_filter_ne [DecidableEq α] (table : List (α × β)) (gone key : α) :
    (table.filter (·.1 != gone)).lookup key = if key = gone then none else table.lookup key := by
  induction table with
  | nil => simp
  | cons entry rest ih =>
    obtain ⟨other, value⟩ := entry
    rw [lookup_cons_eq_ite]
    by_cases removed : other = gone
    · rw [List.filter_cons_of_neg (by simp [removed]), ih]
      by_cases same : key = gone
      · simp [same]
      · rw [if_neg same, if_neg same, if_neg (removed ▸ same)]
    · rw [List.filter_cons_of_pos (by simpa using removed), lookup_cons_eq_ite, ih]
      by_cases same : key = other
      · subst same
        simp [removed]
      · simp [same]

end SensorLink
