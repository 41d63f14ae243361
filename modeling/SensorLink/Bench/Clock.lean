/-
# The virtual clock

A queue of items that are ready, in the order in which they became ready, and
items that wait for a time.  Time is counted in microseconds and moves only when
the clock is told to.
-/

namespace SensorLink.Bench

/-- Enough fuel for everything that becomes ready at one time. -/
def drainFuel : Nat := 100000

/-- Enough fuel for every move of the clock. -/
def moveFuel : Nat := 1000000

/-- Items that are ready or wait for their time. -/
structure Clock (α : Type) where
  now : Nat
  ready : List α
  /-- Waiting items with the times at which they are due, in the order in which they were
  set. -/
  waiting : List (Nat × α)

namespace Clock

variable {α : Type}

/-- The beginning of time. -/
def zero : Clock α :=
  ⟨0, [], []⟩

/-- Make an item ready, after all others. -/
def push (c : Clock α) (item : α) : Clock α :=
  { c with ready := c.ready ++ [item] }

/-- Make items ready, before all others. -/
def pushFirst (c : Clock α) (items : List α) : Clock α :=
  { c with ready := items ++ c.ready }

/-- Let an item wait for a span; an item that waits for ever is forgotten. -/
def wait (c : Clock α) (span : Option Nat) (item : α) : Clock α :=
  match span with
  | some d => { c with waiting := c.waiting ++ [(c.now + d, item)] }
  | none => c

/-- Drop the items of a class, ready or waiting. -/
def drop (c : Clock α) (class? : α → Bool) : Clock α :=
  { c with
    ready := c.ready.filter (!class? ·)
    waiting := c.waiting.filter fun (_, item) => !class? item }

/-- The earliest time at which an item is due. -/
def nextDue? (c : Clock α) : Option Nat :=
  (c.waiting.map Prod.fst).min?

/-- The earliest time at which an item is due, if it is no later than the deadline. -/
def nextBy? (c : Clock α) (deadline : Option Nat) : Option Nat :=
  c.nextDue?.filter fun due => deadline.all (due ≤ ·)

/-- The next time at which an item is due is the least of those, and it is in time. -/
theorem nextBy?_eq_some_iff {c : Clock α} {deadline due : Nat} :
    c.nextBy? (some deadline) = some due ↔
      (∃ w ∈ c.waiting, w.1 = due) ∧ (∀ w ∈ c.waiting, due ≤ w.1) ∧ due ≤ deadline := by
  simp only [nextBy?, nextDue?, Option.filter_eq_some_iff, List.min?_eq_some_iff, List.mem_map,
    forall_exists_index, and_imp, forall_apply_eq_imp_iff₂, Option.all_some, decide_eq_true_eq,
    and_assoc]

/-- Nothing is due by the deadline if all that waits is due later. -/
theorem nextBy?_eq_none_iff {c : Clock α} {deadline : Nat} :
    c.nextBy? (some deadline) = none ↔ ∀ w ∈ c.waiting, deadline < w.1 := by
  constructor
  · intro nothing w mem
    cases next : c.nextDue? with
    | none =>
      have empty := List.map_eq_nil_iff.mp (List.min?_eq_none_iff.mp next)
      rw [empty] at mem
      cases mem
    | some due =>
      have late := Option.filter_eq_none_iff.mp nothing due next
      have least := (List.min?_eq_some_iff.mp next).2 w.1 (List.mem_map_of_mem mem)
      simp only [Option.all_some, decide_eq_true_eq, Nat.not_le] at late
      exact Nat.lt_of_lt_of_le late least
  · intro later
    refine Option.filter_eq_none_iff.mpr fun due next => ?_
    obtain ⟨w, mem, rfl⟩ := List.mem_map.mp (List.min?_mem next)
    simpa using later w mem

/-- Move to a time and make the items due by then ready. -/
def moveTo (c : Clock α) (time : Nat) : Clock α :=
  let due := c.waiting.filter fun (t, _) => t ≤ time
  { now := max c.now time
    ready := c.ready ++ due.map Prod.snd
    waiting := c.waiting.filter fun (t, _) => !(t ≤ time : Bool) }

end Clock

end SensorLink.Bench
