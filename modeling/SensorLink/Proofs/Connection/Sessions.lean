/-
# The session in charge

A transition may hand the machine a session, and the end of a connection is to take it
away again.  It does, unless the transition that ends the connection brings a session of
its own: what is handed over goes before what is dropped, so the machine is left
disconnected with that session, and keeps it through the next attempt until another is
given.  The session held at any point is thus the last one given since the connection
ended, and if there is none, the one that came with its end.
-/

import Mathlib.Data.List.Induction
import SensorLink.Proofs.Connection.Generations

namespace SensorLink.Connection.Machine

variable {σ : Type}

/-- Whether a call asks for the end of the connection. -/
def Call.ends (c : Call σ) : Bool :=
  c.target == .disconnected

/-- The accepted calls of a sequence, the latest first. -/
def acceptedCalls (m : Machine σ) (calls : List (Call σ)) : List (Call σ) :=
  (((m.transcript calls).filter Entry.accepted).map Entry.call).reverse

/-- The session given last since a connection ended. -/
def lastGiven? (m : Machine σ) (calls : List (Call σ)) : Option σ :=
  ((m.acceptedCalls calls).takeWhile (!·.ends)).findSome? Call.session

/-- The session given with the last end of a connection. -/
def parting? (m : Machine σ) (calls : List (Call σ)) : Option σ :=
  ((m.acceptedCalls calls).find? Call.ends).bind Call.session

/-- A session that is given is held; without one, the end of a connection drops the old one. -/
theorem session_enter (m : Machine σ) (target : State) (session : Option σ) :
    (m.enter target session).session =
      session.or (if target = .disconnected then none else m.session) := by
  cases session <;> rfl

theorem after_concat (m : Machine σ) (calls : List (Call σ)) (c : Call σ) :
    m.after (calls ++ [c]) = ((m.after calls).transition c.target c.session).1 :=
  after_append m calls [c]

theorem transcript_concat (m : Machine σ) (calls : List (Call σ)) (c : Call σ) :
    m.transcript (calls ++ [c]) =
      m.transcript calls ++ [⟨c, ((m.after calls).transition c.target c.session).2⟩] := by
  induction calls generalizing m with
  | nil => rfl
  | cons first rest ih => exact congrArg _ (ih (m.transition first.target first.session).1)

section Concat

variable {m : Machine σ} {calls : List (Call σ)} {c : Call σ}

theorem acceptedCalls_of_refused (refused : (m.after calls).state.allows c.target = false) :
    m.acceptedCalls (calls ++ [c]) = m.acceptedCalls calls := by
  rw [acceptedCalls, transcript_concat, transition_of_refused c.session refused,
    List.filter_append, List.filter_cons_of_neg Bool.false_ne_true, List.filter_nil,
    List.append_nil, acceptedCalls]

theorem acceptedCalls_of_allowed (allowed : (m.after calls).state.allows c.target = true) :
    m.acceptedCalls (calls ++ [c]) = c :: m.acceptedCalls calls := by
  rw [acceptedCalls, transcript_concat, transition_of_allowed c.session allowed,
    List.filter_append, List.filter_cons_of_pos rfl, List.filter_nil, List.map_append,
    List.reverse_append, acceptedCalls]
  rfl

end Concat

theorem mem_of_mem_acceptedCalls {m : Machine σ} {calls : List (Call σ)} {c : Call σ}
    (mem : c ∈ m.acceptedCalls calls) : c ∈ calls := by
  induction calls using List.reverseRecOn with
  | nil => exact mem
  | append_singleton calls last ih =>
    cases allowed : (m.after calls).state.allows last.target with
    | false =>
      rw [acceptedCalls_of_refused allowed] at mem
      exact List.mem_append_left _ (ih mem)
    | true =>
      rw [acceptedCalls_of_allowed allowed] at mem
      rcases List.mem_cons.mp mem with rfl | mem
      · exact List.mem_append_right _ (List.mem_singleton_self c)
      · exact List.mem_append_left _ (ih mem)

/-- The last accepted call says where the machine is. -/
theorem state_after (m : Machine σ) (calls : List (Call σ)) :
    (m.after calls).state = ((m.acceptedCalls calls).head?.map Call.target).getD m.state := by
  induction calls using List.reverseRecOn with
  | nil => rfl
  | append_singleton calls c ih =>
    rw [after_concat]
    cases allowed : (m.after calls).state.allows c.target with
    | false => rw [transition_of_refused c.session allowed, acceptedCalls_of_refused allowed, ih]
    | true =>
      rw [transition_of_allowed c.session allowed, acceptedCalls_of_allowed allowed]
      rfl

/-- The machine holds the last session that was given, also when the connection ended with it. -/
theorem session_after (calls : List (Call σ)) : (fresh.after calls).session =
    (fresh.lastGiven? calls).or (fresh.parting? calls) := by
  induction calls using List.reverseRecOn with
  | nil => rfl
  | append_singleton calls c ih =>
    rw [after_concat, lastGiven?, parting?]
    cases allowed : (fresh.after calls).state.allows c.target with
    | false =>
      rw [transition_of_refused c.session allowed, acceptedCalls_of_refused allowed]
      exact ih
    | true =>
      rw [transition_of_allowed c.session allowed, acceptedCalls_of_allowed allowed,
        session_enter]
      by_cases ended : c.target = .disconnected
      · have ends : c.ends = true := beq_iff_eq.mpr ended
        rw [if_pos ended, List.takeWhile_cons_of_neg (by simp [ends]),
          List.find?_cons_of_pos ends]
        exact Option.or_none
      · have goes : c.ends = false := beq_eq_false_iff_ne.mpr ended
        rw [if_neg ended, ih, List.takeWhile_cons_of_pos (by simp [goes]),
          List.find?_cons_of_neg (by simp [goes]), lastGiven?, parting?, ← Option.or_assoc]
        cases given : c.session <;> simp [given]

/-- Nothing is given to a machine that stays disconnected. -/
theorem lastGiven?_of_disconnected {calls : List (Call σ)}
    (disconnected : (fresh.after calls : Machine σ).state = .disconnected) :
    fresh.lastGiven? calls = none := by
  rw [state_after] at disconnected
  rw [lastGiven?]
  cases listed : (fresh.acceptedCalls calls : List (Call σ)) with
  | nil => rfl
  | cons last rest =>
    rw [listed] at disconnected
    have ends : last.ends = true := beq_iff_eq.mpr disconnected
    rw [List.takeWhile_cons_of_neg (by simp [ends])]
    rfl

/-- The machine drops its session with the connection: disconnected it holds none, and otherwise
the last one given since. -/
structure Drops (calls : List (Call σ)) : Prop where
  released : (fresh.after calls).state = .disconnected → (fresh.after calls).session = none
  held : (fresh.after calls).state ≠ .disconnected →
    (fresh.after calls).session = fresh.lastGiven? calls

/-- It does unless the connection ended with a session and none was given since. -/
theorem drops_iff (calls : List (Call σ)) :
    Drops calls ↔ fresh.parting? calls = none ∨ (fresh.lastGiven? calls).isSome = true := by
  have holds := session_after calls
  constructor
  · intro drops
    cases given : fresh.lastGiven? calls with
    | some s => exact .inr rfl
    | none =>
      rw [given, Option.none_or] at holds
      rw [← holds]
      by_cases disconnected : (fresh.after calls).state = .disconnected
      · exact .inl (drops.released disconnected)
      · exact .inl ((drops.held disconnected).trans given)
  · intro clear
    have last : (fresh.after calls).session = fresh.lastGiven? calls := by
      rcases clear with none | some
      · rw [holds, none, Option.or_none]
      · rw [holds, Option.or_of_isSome some]
    exact ⟨fun disconnected => last.trans (lastGiven?_of_disconnected disconnected), fun _ => last⟩

/-- Which session a machine holds, at a point that a sequence of calls has led to. -/
structure Holds (calls : List (Call σ)) : Prop where
  /-- It is the last one given since the connection ended, or the one given with the end. -/
  session : (fresh.after calls).session = (fresh.lastGiven? calls).or (fresh.parting? calls)
  /-- While the machine is disconnected, only the latter can be. -/
  disconnected : (fresh.after calls).state = .disconnected →
    (fresh.after calls).session = fresh.parting? calls
  /-- The session goes with the connection, exactly if the end of it brought none or another was
  given since. -/
  drops : Drops calls ↔ fresh.parting? calls = none ∨ (fresh.lastGiven? calls).isSome = true
  /-- So it does where nobody hands over a session at the end of a connection. -/
  bare : (∀ c ∈ calls, c.target = .disconnected → c.session = none) → Drops calls

/-- **The session in charge.** Whatever transitions are asked of a fresh machine, valid or not, with
a session or without, it holds the last session that was given since the connection ended or with
its end; so a disconnected machine holds none, unless the call that ended the connection gave it
one. -/
theorem holds_after (calls : List (Call σ)) : Holds calls where
  session := session_after calls
  disconnected disconnected := by
    rw [session_after, lastGiven?_of_disconnected disconnected, Option.none_or]
  drops := drops_iff calls
  bare bare := by
    refine (drops_iff calls).mpr (.inl ?_)
    rw [parting?, Option.bind_eq_none_iff]
    intro c found
    have ends : c.ends = true := List.find?_some found
    exact bare c (mem_of_mem_acceptedCalls (List.mem_of_find?_eq_some found)) (beq_iff_eq.mp ends)

/-- An attempt that is given up with a session in hand. -/
def parted : List (Call String) :=
  [⟨.connecting, none⟩, ⟨.disconnected, some "first"⟩]

/-- The session of a connection that ended with it stays, and is still there in the next attempt. -/
theorem not_drops_parted : ¬Drops parted ∧ ¬Drops (parted ++ [⟨.connecting, none⟩]) :=
  ⟨fun drops => Option.some_ne_none _ (drops.released rfl),
    fun drops => Option.some_ne_none _ (drops.held nofun)⟩

end SensorLink.Connection.Machine
