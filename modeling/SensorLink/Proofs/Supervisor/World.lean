/-
# Worlds that answer

The world around a supervisor decides which callback comes next and what is
answered at once, and it may go by everything that the callbacks before asked of
it: the clients they opened, the calls they wait for, the timers they set and
took back, the listeners they called.  It does not go by reports.  When it lets
a callback run is its own affair, so if two runs show a world the same after
every callback, the same is asked of it at the same times.

A world is called hushed where its listeners never fail.  Hushing a world changes
nothing but reports: the state, the store, the tasks and the timers are the same
before every callback, and so is all that the supervisor asks.
-/

import SensorLink.Proofs.Supervisor.Congruence
import SensorLink.Proofs.Supervisor.Run

namespace SensorLink

open Link (Effect Settings Surroundings)

/-- The same surroundings with listeners that do not fail. -/
def Link.Surroundings.hushed (env : Surroundings) : Surroundings :=
  { env with readyFails := none, lostFails := none, readingFails := none }

theorem Link.Surroundings.agrees_hushed (env : Surroundings) : env.Agrees env.hushed where
  openClient := rfl
  link := rfl
  lookup := rfl

/-- What comes next, and in which surroundings, given the acts on the tape after every callback
so far. -/
def World (δ : Type) : Type :=
  List (List (Effect δ)) → Surroundings × Event

namespace World

variable {δ : Type}

/-- A world with listeners that do not fail. -/
def hushed (w : World δ) : World δ :=
  fun seen => ((w seen).1.hushed, (w seen).2)

/-- What a world has seen after a number of callbacks, and the supervisor it has driven so far. -/
def drive (w : World δ) (cfg : Settings δ) : Nat → List (List (Effect δ)) × Supervisor δ
  | 0 => ([], .fresh)
  | n + 1 =>
    let (seen, s) := w.drive cfg n
    let s := s.step cfg (w seen).1 (w seen).2
    (seen ++ [s.loop.acts], s)

/-- A callback that a world lets run, counted from zero. -/
def moment (w : World δ) (cfg : Settings δ) (n : Nat) : Supervisor.Moment δ where
  before := (w.drive cfg n).2
  env := (w (w.drive cfg n).1).1
  event := (w (w.drive cfg n).1).2

theorem drive_succ (w : World δ) (cfg : Settings δ) (n : Nat) :
    w.drive cfg (n + 1) = ((w.drive cfg n).1 ++ [((w.moment cfg n).after cfg).loop.acts],
      (w.moment cfg n).after cfg) :=
  rfl

/-- The next callback finds what the callback before it left. -/
theorem before_succ (w : World δ) (cfg : Settings δ) (n : Nat) :
    (w.moment cfg (n + 1)).before = (w.moment cfg n).after cfg := by
  rw [moment, drive_succ]

/-- Two worlds that differ in the failures of their listeners alone. -/
def Agrees (w w' : World δ) : Prop :=
  ∀ seen, (w seen).1.Agrees (w' seen).1 ∧ (w' seen).2 = (w seen).2

end World

namespace Supervisor

variable {δ : Type} {cfg : Settings δ}

/-- The same event meets supervisors that nothing but reports tells apart. -/
structure Moment.Alike (m m' : Moment δ) : Prop where
  before : m.before.Alike m'.before
  env : m.env.Agrees m'.env
  event : m'.event = m.event

/-- An attempt is handed the tree of the current connection. -/
def Moment.Hands (m : Moment δ) (tree : Gatt.Tree) : Prop :=
  m.before.Hands m.event tree

/-- The states after moments that are alike are alike, if a tree that was handed over reads
alike. -/
theorem Moment.Alike.after {m m' : Moment δ} (alike : m.Alike m') (threshold : Journal.Level)
    (reads : ∀ tree, m.Hands tree → (cfg.keeping threshold).reads tree = cfg.reads tree) :
    (m.after cfg).Alike (m'.after (cfg.keeping threshold)) := by
  unfold Moment.after
  rw [alike.event]
  exact alike.before.step cfg threshold alike.env m.event reads

end Supervisor

namespace World

variable {δ : Type} {w w' : World δ} {cfg : Settings δ}

theorem length_drive (w : World δ) (cfg : Settings δ) (n : Nat) :
    (w.drive cfg n).1.length = n := by
  induction n with
  | zero => rfl
  | succ n ih => rw [drive_succ, List.length_append, ih, List.length_singleton]

/-- What was seen and the state decide on what comes next. -/
theorem moment_alike (agrees : w.Agrees w') {threshold : Journal.Level} {n : Nat}
    (seen : (w'.drive (cfg.keeping threshold) n).1 = (w.drive cfg n).1)
    (states : (w.drive cfg n).2.Alike (w'.drive (cfg.keeping threshold) n).2) :
    (w.moment cfg n).Alike (w'.moment (cfg.keeping threshold) n) := by
  obtain ⟨env, event⟩ := agrees (w.drive cfg n).1
  rw [moment, moment, seen]
  exact ⟨states, env, event⟩

/-- The one world sees what the other sees, and drives its supervisor alike. -/
theorem drive_alike (agrees : w.Agrees w') (cfg : Settings δ) (threshold : Journal.Level) (n : Nat)
    (reads : ∀ m < n, ∀ tree, (w.moment cfg m).Hands tree →
      (cfg.keeping threshold).reads tree = cfg.reads tree) :
    (w'.drive (cfg.keeping threshold) n).1 = (w.drive cfg n).1 ∧
      (w.drive cfg n).2.Alike (w'.drive (cfg.keeping threshold) n).2 := by
  induction n with
  | zero => exact ⟨rfl, .refl _⟩
  | succ n ih =>
    obtain ⟨seen, states⟩ := ih fun m earlier => reads m (Nat.lt_succ_of_lt earlier)
    have after := (moment_alike agrees seen states).after threshold (reads n (Nat.lt_succ_self n))
    rw [drive_succ, drive_succ, seen, after.acts]
    exact ⟨rfl, after⟩

/-- Failures of the listeners make no difference but in the reports. -/
theorem alike_hushed (w : World δ) (cfg : Settings δ) (n : Nat) :
    (w.hushed.drive cfg n).1 = (w.drive cfg n).1 ∧
      (w.moment cfg n).Alike (w.hushed.moment cfg n) := by
  have agrees : w.Agrees w.hushed := fun seen => ⟨(w seen).1.agrees_hushed, rfl⟩
  obtain ⟨seen, states⟩ := drive_alike agrees cfg cfg.threshold n fun _ _ _ _ => rfl
  exact ⟨seen, moment_alike agrees seen states⟩

end World

namespace Supervisor

variable {δ : Type} {cfg : Settings δ} {past : List (Moment δ)} {s : Supervisor δ}

/-- A world that repeats the answers of a run drives the run. -/
theorem Run.driven_of_repeats (run : Run cfg past s) {w : World δ}
    (repeats : ∀ n m, past[n]? = some m → ∀ seen, seen.length = n → w seen = (m.env, m.event)) :
    (w.drive cfg past.length).2 = s ∧ ∀ n m, past[n]? = some m → w.moment cfg n = m := by
  induction run with
  | fresh =>
    refine ⟨rfl, ?_⟩
    intro n m here
    rw [List.getElem?_nil] at here
    cases here
  | @step past m _ _ ih =>
    obtain ⟨reached, earlier⟩ := ih fun n other here => repeats n other (by
      rw [List.getElem?_append_left (List.getElem?_eq_some_iff.mp here).1, here])
    have last : w.moment cfg past.length = m := by
      have answer := repeats past.length m List.getElem?_concat_length _ (w.length_drive cfg _)
      rw [World.moment, reached, answer]
    refine ⟨?_, ?_⟩
    · rw [List.length_append, List.length_singleton, World.drive_succ, last]
    · intro n other here
      rcases Nat.lt_trichotomy n past.length with before | rfl | beyond
      · rw [List.getElem?_append_left before] at here
        exact earlier n other here
      · rw [List.getElem?_concat_length] at here
        rw [last, Option.some.inj here]
      · have bound := (List.getElem?_eq_some_iff.mp here).1
        rw [List.length_append, List.length_singleton] at bound
        omega

/-- Every run is driven by a world. -/
theorem Run.driven (run : Run cfg past s) : ∃ w : World δ, (w.drive cfg past.length).2 = s ∧
    ∀ n m, past[n]? = some m → w.moment cfg n = m := by
  refine ⟨fun seen => (past[seen.length]?).elim (plainWorld, .started)
    fun m => (m.env, m.event), run.driven_of_repeats ?_⟩
  rintro n m here seen rfl
  rw [here, Option.elim_some]

end Supervisor

end SensorLink
