/-
# Time on the loop

Callbacks run one at a time, and no time passes while one of them runs.  A beat is a
callback with the time at which it ran.  `Punctual` is what the loop promises about
the times of a history: a timer goes off exactly its wait after it was set, and no time
passes while a task has not taken its first step.
-/

import Mathlib.Data.List.Pairwise
import SensorLink.Link.Loop

namespace SensorLink.Link

variable {δ : Type}

/-- How long a timer waits. -/
def Wait.length [Zero δ] : Wait δ → δ
  | soon => 0
  | delay d => d

/-- One callback, as the clock sees it.  It may be the callback of a timer. -/
structure Beat (δ : Type) where
  time : δ
  timer : Option TimerId
  before : Loop δ
  after : Loop δ

namespace Beat

/-- A callback sets a timer. -/
structure Sets (b : Beat δ) (timer : TimerId) (wait : Wait δ) : Prop where
  absent : timer ∉ b.before.timers
  live : timer ∈ b.after.timers
  written : .schedule timer wait ∈ b.after.tape

/-- A callback creates a task. -/
structure Spawns (b : Beat δ) (task : TaskId) : Prop where
  absent : b.before.isLive task = false
  live : b.after.isLive task = true

/-- A callback runs later than another, and within the waits that the other began. -/
structure Follows [Zero δ] [Add δ] [LE δ] (earlier later : Beat δ) : Prop where
  ordered : earlier.time ≤ later.time
  /-- A timer does not go off before its wait is over. -/
  notEarly : ∀ timer wait, earlier.Sets timer wait → later.timer = some timer →
    timer ∈ later.before.timers → earlier.time + wait.length ≤ later.time
  /-- A timer is not live any more once its wait is over. -/
  notLate : ∀ timer wait, earlier.Sets timer wait → timer ∈ later.before.timers →
    later.time ≤ earlier.time + wait.length
  /-- No time passes while a task has not begun. -/
  atOnce : ∀ task point, earlier.Spawns task → later.before.point? task = some point →
    point.isStart = true → later.time ≤ earlier.time

/-- The timers that a callback sets, with the lengths of their waits. -/
def waits [Zero δ] (b : Beat δ) : List (TimerId × δ) :=
  b.after.tape.filterMap fun
    | .schedule timer wait =>
      if timer ∉ b.before.timers ∧ timer ∈ b.after.timers then some (timer, wait.length) else none
    | _ => none

theorem mem_waits_iff [Zero δ] {b : Beat δ} {timer : TimerId} {d : δ} :
    (timer, d) ∈ b.waits ↔ ∃ wait, b.Sets timer wait ∧ wait.length = d := by
  rw [waits, List.mem_filterMap]
  constructor
  · rintro ⟨effect, written, same⟩
    cases effect with
    | schedule timer' wait =>
      simp only [Option.ite_none_right_eq_some, Option.some.injEq, Prod.mk.injEq] at same
      obtain ⟨⟨absent, live⟩, rfl, rfl⟩ := same
      exact ⟨wait, ⟨absent, live, written⟩, rfl⟩
    | _ => cases same
  · rintro ⟨wait, sets, rfl⟩
    exact ⟨_, sets.written, if_pos ⟨sets.absent, sets.live⟩⟩

/-- Only what a callback left behind has to be looked at to see that another follows it. -/
theorem follows_iff [Zero δ] [Add δ] [LE δ] {earlier later : Beat δ} :
    earlier.Follows later ↔ earlier.time ≤ later.time ∧
      (∀ w ∈ earlier.waits, w.1 ∈ later.before.timers →
        (later.timer = some w.1 → earlier.time + w.2 ≤ later.time) ∧
          later.time ≤ earlier.time + w.2) ∧
      ∀ t ∈ later.before.tasks, later.before.point? t.1 = some t.2 → t.2.isStart = true →
        earlier.before.isLive t.1 = false → earlier.after.isLive t.1 = true →
          later.time ≤ earlier.time := by
  constructor
  · refine fun follows => ⟨follows.ordered, ?_, ?_⟩
    · rintro ⟨timer, d⟩ mem live
      obtain ⟨wait, sets, rfl⟩ := mem_waits_iff.mp mem
      exact ⟨fun off => follows.notEarly timer wait sets off live,
        follows.notLate timer wait sets live⟩
    · intro t _ here start absent live
      exact follows.atOnce t.1 t.2 ⟨absent, live⟩ here start
  · rintro ⟨ordered, timers, tasks⟩
    refine ⟨ordered, ?_, ?_, ?_⟩
    · intro timer wait sets off live
      exact (timers _ (mem_waits_iff.mpr ⟨wait, sets, rfl⟩) live).1 off
    · intro timer wait sets live
      exact (timers _ (mem_waits_iff.mpr ⟨wait, sets, rfl⟩) live).2
    · intro task point spawns here start
      obtain ⟨front, rest, split, -⟩ := List.lookup_eq_some_iff.mp here
      have mem : (task, point) ∈ later.before.tasks := by simp [split]
      exact tasks _ mem here start spawns.absent spawns.live

instance [Zero δ] [Add δ] [LE δ] [DecidableLE δ] (earlier later : Beat δ) :
    Decidable (earlier.Follows later) :=
  decidable_of_iff' _ follows_iff

end Beat

/-- Every callback comes in its time after those before it. -/
def Punctual [Zero δ] [Add δ] [LE δ] (beats : List (Beat δ)) : Prop :=
  beats.Pairwise Beat.Follows

instance [Zero δ] [Add δ] [LE δ] [DecidableLE δ] (beats : List (Beat δ)) :
    Decidable (Punctual beats) :=
  inferInstanceAs (Decidable (beats.Pairwise Beat.Follows))

/-- The latest callback of a punctual history follows all others. -/
theorem punctual_concat [Zero δ] [Add δ] [LE δ] {beats : List (Beat δ)} {b : Beat δ} :
    Punctual (beats ++ [b]) ↔ Punctual beats ∧ ∀ a ∈ beats, a.Follows b := by
  simp [Punctual, List.pairwise_append]

/-- Of two places in a history, one comes after the other, or they are the same. -/
theorem places_cases {α : Type} {before between earlier later : List α} {m e : α}
    (split : before ++ m :: between = earlier ++ e :: later) :
    e ∈ between ∨ m ∈ later ∨ before = earlier ∧ m = e ∧ between = later := by
  rcases List.append_eq_append_iff.mp split with ⟨rest, rfl, same⟩ | ⟨rest, rfl, same⟩
  · cases rest with
    | nil => exact .inr (.inr ⟨by simp, List.cons.inj same⟩)
    | cons _ rest => exact .inl (by simp [(List.cons.inj same).2])
  · cases rest with
    | nil => exact .inr (.inr ⟨by simp, (List.cons.inj same).imp Eq.symm Eq.symm⟩)
    | cons _ rest => exact .inr (.inl (by simp [(List.cons.inj same).2]))

end SensorLink.Link
