/-
# Generations as tokens

Whoever issues an operation captures the machine's generation and asks on
completion whether it is still current.  That is sound if no number is ever used
again.  Whatever transitions are asked for, the generation counts the accepted
entries into connecting and disconnected, so it never falls, and a captured token
is current exactly as long as no such entry was accepted since.

Its parity says more: the machine is disconnected exactly while the generation is
even, because connecting is entered from disconnected alone, and disconnected from
all other states.
-/

import Mathlib.Algebra.Group.Nat.Even
import SensorLink.Connection.Machine

namespace SensorLink.Connection.Machine

variable {σ : Type}

/-- A call that asks for a transition, with a session or without. -/
structure Call (σ : Type) where
  target : State
  session : Option σ

/-- A call and its answer. -/
structure Entry (σ : Type) where
  call : Call σ
  accepted : Bool

/-- An accepted entry into connecting or disconnected. -/
def Entry.opens (e : Entry σ) : Bool :=
  e.accepted && (e.call.target == .connecting || e.call.target == .disconnected)

/-- The machine after a sequence of calls. -/
def after (m : Machine σ) (calls : List (Call σ)) : Machine σ :=
  calls.foldl (fun m c => (m.transition c.target c.session).1) m

/-- The calls of a sequence, each with its answer. -/
def transcript (m : Machine σ) : List (Call σ) → List (Entry σ)
  | [] => []
  | c :: rest =>
    let (next, accepted) := m.transition c.target c.session
    ⟨c, accepted⟩ :: next.transcript rest

theorem after_append (m : Machine σ) (calls later : List (Call σ)) :
    m.after (calls ++ later) = (m.after calls).after later :=
  List.foldl_append

theorem transition_of_allowed {m : Machine σ} {target : State} (session : Option σ)
    (allowed : m.state.allows target = true) :
    m.transition target session = (m.enter target session, true) := by
  rw [transition, if_pos allowed]

theorem transition_of_refused {m : Machine σ} {target : State} (session : Option σ)
    (refused : m.state.allows target = false) : m.transition target session = (m, false) := by
  rw [transition, refused, if_neg Bool.false_ne_true]

/-- A call adds one to the generation if it opens one. -/
theorem generation_transition (m : Machine σ) (c : Call σ) :
    (m.transition c.target c.session).1.generation = m.generation +
      if (Entry.mk c (m.transition c.target c.session).2).opens then 1 else 0 := by
  cases allowed : m.state.allows c.target with
  | false => simp [transition_of_refused c.session allowed, Entry.opens]
  | true =>
    rw [transition_of_allowed c.session allowed]
    cases target : c.target <;> simp [enter, State.opensGeneration, Entry.opens, target]

/-- Disconnected at even generations, and connected in some way at odd ones. -/
def Alternates (m : Machine σ) : Prop :=
  Even m.generation ↔ m.state = .disconnected

/-- The generation turns with the state. -/
theorem Alternates.transition {m : Machine σ} (alternates : m.Alternates) (target : State)
    (session : Option σ) : (m.transition target session).1.Alternates := by
  unfold Alternates at *
  cases allowed : m.state.allows target with
  | false => rwa [transition_of_refused session allowed]
  | true =>
    rw [transition_of_allowed session allowed]
    cases here : m.state <;> cases target <;>
      simp_all [State.allows, enter, State.opensGeneration, Nat.even_add_one]

/-- The generation counts the entries that open one. -/
theorem generation_after (m : Machine σ) (calls : List (Call σ)) :
    (m.after calls).generation = m.generation + (m.transcript calls).countP Entry.opens := by
  induction calls generalizing m with
  | nil => rfl
  | cons c rest ih =>
    have counted := ih (m.transition c.target c.session).1
    rw [generation_transition, Nat.add_assoc] at counted
    rw [transcript, List.countP_cons, Nat.add_comm (List.countP ..)]
    exact counted

theorem Alternates.after {m : Machine σ} (alternates : m.Alternates) (calls : List (Call σ)) :
    (m.after calls).Alternates := by
  induction calls generalizing m with
  | nil => exact alternates
  | cons c rest ih => exact ih (alternates.transition c.target c.session)

/-- A token stays current exactly as long as nothing opens a generation. -/
theorem isCurrent_after_iff (m : Machine σ) (calls : List (Call σ)) :
    (m.after calls).isCurrent m.generation = true ↔
      ∀ e ∈ m.transcript calls, e.opens = false := by
  rw [isCurrent_natCast, beq_iff_eq, generation_after, Nat.left_eq_add, List.countP_eq_zero]
  simp only [Bool.not_eq_true]

/-- A connection has ended when its machine is disconnected: something opened a generation, and
whatever follows, no token of the connection is current again. -/
theorem not_isCurrent_of_ended {m : Machine σ} (alternates : m.Alternates)
    (connected : m.state ≠ .disconnected) {calls : List (Call σ)}
    (ended : (m.after calls).state = .disconnected) (later : List (Call σ)) :
    (m.after (calls ++ later)).isCurrent m.generation = false := by
  have odd : ¬Even m.generation := alternates.not.mpr connected
  have even : Even (m.after calls).generation := (alternates.after calls).mpr ended
  have grown : m.generation < (m.after calls).generation := by
    apply Nat.lt_of_le_of_ne
    · rw [generation_after]
      exact Nat.le_add_right ..
    · intro same
      exact odd (same ▸ even)
  have further : (m.after calls).generation ≤ (m.after (calls ++ later)).generation := by
    rw [after_append, generation_after (m.after calls)]
    exact Nat.le_add_right ..
  rw [isCurrent_natCast, beq_eq_false_iff_ne]
  exact Nat.ne_of_lt (Nat.lt_of_lt_of_le grown further)

/-- What generations are worth as tokens, at a point that a sequence of calls has led to. -/
structure Tokens (calls : List (Call σ)) : Prop where
  /-- A call is rejected exactly if the transition is not a valid one, and then changes nothing. -/
  rejected : ∀ target session, ((fresh.after calls).transition target session).2 = false ↔
    (fresh.after calls).state.allows target = false
  unchanged : ∀ target session, ((fresh.after calls).transition target session).2 = false →
    ((fresh.after calls).transition target session).1 = fresh.after calls
  /-- The generation is the number of accepted entries into connecting or disconnected. -/
  counted : (fresh.after calls).generation = (fresh.transcript calls).countP Entry.opens
  /-- It is even exactly while the machine is disconnected. -/
  parity : Even (fresh.after calls).generation ↔ (fresh.after calls).state = .disconnected
  /-- A token captured here is current later exactly if no such entry was accepted meanwhile. -/
  current : ∀ later, (fresh.after (calls ++ later)).isCurrent (fresh.after calls).generation =
    true ↔ ∀ e ∈ (fresh.after calls).transcript later, e.opens = false
  /-- A token of a connection is never current again once the connection has ended. -/
  spent : (fresh.after calls).state ≠ .disconnected →
    ∀ ending later, (fresh.after (calls ++ ending)).state = .disconnected →
      (fresh.after (calls ++ (ending ++ later))).isCurrent (fresh.after calls).generation = false

/-- **Generations are tokens.** Whatever transitions are asked of a fresh machine, valid or not, its
generation at any point identifies the attempt that was under way there. -/
theorem tokens_after (calls : List (Call σ)) : Tokens calls := by
  have alternates : (fresh.after calls : Machine σ).Alternates :=
    Alternates.after (by simp [Alternates, fresh]) calls
  refine ⟨?_, ?_, ?_, alternates, ?_, ?_⟩
  · intro target session
    rw [transition]
    split <;> simp_all
  · intro target session rejected
    rw [transition] at rejected ⊢
    split <;> simp_all
  · rw [generation_after]
    exact Nat.zero_add _
  · intro later
    rw [after_append]
    exact isCurrent_after_iff _ later
  · intro connected ending later ended
    rw [after_append] at ended ⊢
    exact not_isCurrent_of_ended alternates connected ended later

end SensorLink.Connection.Machine
