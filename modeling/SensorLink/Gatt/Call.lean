/-
# Calls on the Bluetooth client

A session talks to its client through five calls, each guarded by an optional
limit of time.  A call ends with a value, with a failure, by running out of its
limit, or by being cancelled.
-/

import SensorLink.Failure

namespace SensorLink.Gatt

/-- A call on a client. -/
inductive Call where
  | connect
  | pair
  | read (handle : Option Int)
  | subscribe (handle : Option Int)
  | disconnect
  deriving DecidableEq, Repr

/-- The name of a call in messages. -/
def Call.label : Call → String
  | connect => "connect"
  | pair => "pair"
  | read _ => "read"
  | subscribe _ => "start notify"
  | disconnect => "disconnect"

/-- The limits of the calls; an absent limit means waiting for ever. -/
structure Limits (δ : Type) where
  connection : Option δ
  transfer : Option δ
  notification : Option δ
  disconnection : Option δ

/-- The limit that guards a call. -/
def Limits.of {δ : Type} (limits : Limits δ) : Call → Option δ
  | .connect | .pair => limits.connection
  | .read _ => limits.transfer
  | .subscribe _ => limits.notification
  | .disconnect => limits.disconnection

/-- How an awaited call ended. -/
inductive Ending where
  | returned (payload : List UInt8)
  | raised (f : Failure)
  | timedOut
  | cancelled
  deriving Repr

/-- What a call's caller sees of its ending, given the text of its limit: running out of time
is a failure of the link, and so is a time-out that the client itself reports to a guarded
call.  A cancelled caller sees nothing. -/
def Ending.result? (call : Call) (limit : Option String) :
    Ending → Option (Except Failure (List UInt8))
  | returned payload => some (.ok payload)
  | raised f =>
    match limit with
    | some text =>
      some (.error (if f.kind = .timeout then .timedOut call.label text else f))
    | none => some (.error f)
  | timedOut => some (.error (.timedOut call.label (limit.getD "")))
  | cancelled => none

/-- Only the caller of a cancelled call sees nothing. -/
theorem Ending.result?_eq_none_iff {call : Call} {limit : Option String} {ending : Ending} :
    ending.result? call limit = none ↔ ending = .cancelled := by
  cases ending with
  | raised f => cases limit <;> simp [result?]
  | returned | timedOut | cancelled => simp [result?]

/-- Only a call that returned gives a payload, and it is the call's own. -/
theorem Ending.result?_eq_ok_iff {call : Call} {limit : Option String} {ending : Ending}
    {payload : List UInt8} :
    ending.result? call limit = some (.ok payload) ↔ ending = .returned payload := by
  cases ending with
  | raised f => cases limit <;> simp [result?]
  | returned | timedOut | cancelled => simp [result?]

/-- The caller of a guarded call never sees a time-out. -/
theorem Ending.kind_of_result? {call : Call} {text : String} {ending : Ending} {f : Failure}
    (failed : ending.result? call (some text) = some (.error f)) : f.kind ≠ .timeout := by
  cases ending with
  | returned | cancelled => cases failed
  | timedOut =>
    cases failed
    nofun
  | raised own =>
    cases failed
    split
    · nofun
    · assumption

/-- The result of discovery: without services, and after a failure of the stack, discovery
counts as incomplete. -/
def discovered {α : Type} : Except Failure (Option α) → Except Failure α
  | .ok (some tree) => .ok tree
  | .ok none => .error .discoveryIncomplete
  | .error f =>
    match f.kind with
    | .stack | .bus | .deviceNotFound => .error .discoveryIncomplete
    | _ => .error f

/-- Discovery passes on a time-out of the client, and makes none of its own. -/
theorem discovered_eq_timeout_iff {α : Type} {reading : Except Failure (Option α)} {f : Failure}
    (late : f.kind = .timeout) : discovered reading = .error f ↔ reading = .error f := by
  constructor
  · intro failed
    have other : f ≠ .discoveryIncomplete := by
      rintro rfl
      cases late
    unfold discovered at failed
    split at failed
    · cases failed
    · cases failed
      exact absurd rfl other
    · split at failed
      all_goals cases failed
      all_goals first | exact absurd rfl other | rfl
  · rintro rfl
    simp only [discovered, late]

end SensorLink.Gatt
