/-
# Sessions

A session owns the client of one connection attempt until it forgets it, and makes
the calls of its operations on it.  A call that is guarded does not wait beyond its
limit.  Connecting goes on to pairing if the security level asks for it, and without
its client a session refuses every operation.

How a call goes by itself is up to the client, and how time passes is not decided
here.
-/

import SensorLink.Decimal.Binary64
import SensorLink.Gatt.Call
import SensorLink.Gatt.Tree
import SensorLink.Journal

namespace SensorLink.Gatt

open Journal (Record)

/-- The time until an event in microseconds, absent if it never comes. -/
abbrev Span := Option Nat

/-- A number of seconds in whole microseconds.  What lies in the past is due at once; an
infinite time never comes. -/
def microseconds (seconds : Float) : Span :=
  (Decimal.Binary64.round? (seconds * 1000000)).map Int.toNat

/-- How a call goes. -/
structure Settlement where
  /-- When it ends, counted from its start; at once if there is no wait at all. -/
  after : Option Span
  ending : Ending

/-- Whether a limit leaves no time for a call to start. -/
def isExhausted (limit : Option Float) : Bool :=
  limit.any (· ≤ 0)

/-- How a call goes under a limit: the limit wins unless the call ends before it. -/
def Settlement.within (own : Settlement) (limit : Option Float) : Settlement :=
  match own.after, limit.bind microseconds with
  | none, _ => own
  | some none, cutoff => ⟨some cutoff, .timedOut⟩
  | some (some d), some t => if d < t then own else ⟨some (some t), .timedOut⟩
  | some (some _), none => own

/-- What a session says before it pairs. -/
def pairingText (address security : String) : String :=
  "Pairing with " ++ address ++ " (security=" ++ security ++ ")"

/-- The terms on which a session talks to its client, and whether it has forgotten it. -/
structure Session where
  address : String
  /-- The name of the security level. -/
  security : String
  limits : Limits Float
  released : Bool

namespace Session

/-- The text of the limit of a call. -/
def limitText (s : Session) (call : Call) : Option String :=
  (s.limits.of call).map (Decimal.fixed 1)

/-- Whether there is time to make a call at all. -/
def allows (s : Session) (call : Call) : Bool :=
  !isExhausted (s.limits.of call)

/-- How a call goes, given how it would go by itself.  A call that is not made has run out of its
limit. -/
def settle (s : Session) (call : Call) (own : Settlement) : Settlement :=
  if s.allows call then own.within (s.limits.of call) else ⟨none, .timedOut⟩

/-- What an operation does when its call has ended. -/
inductive Next where
  | ends (result : Except Failure (List UInt8))
  /-- It leaves a record and goes on to pairing. -/
  | pairs (r : Record)

/-- What an operation does when its call has ended: connecting goes on to pairing if the security
level asks for it.  A cancelled operation does nothing. -/
def proceed (s : Session) (call : Call) (ending : Ending) : Option Next :=
  match ending.result? call (s.limitText call) with
  | none => none
  | some (.error f) => some (.ends (.error f))
  | some (.ok payload) =>
    if call = .connect ∧ s.security ≠ "low" then
      some (.pairs (Journal.note .debug (pairingText s.address s.security)))
    else some (.ends (.ok payload))

/-- Whether an operation goes on to pairing after a call: a connection is up and the security level
asks for it. -/
def GoesOn (s : Session) (call : Call) (ending : Ending) : Prop :=
  call = .connect ∧ (∃ payload, ending = .returned payload) ∧ s.security ≠ "low"

/-- The end of a call that was not cancelled ends its operation, or lets it go on to pairing. -/
theorem proceed_cases (s : Session) {call : Call} {ending : Ending} (real : ending ≠ .cancelled) :
    (¬s.GoesOn call ending ∧ ∃ result, ending.result? call (s.limitText call) = some result ∧
      s.proceed call ending = some (.ends result)) ∨
    (s.GoesOn call ending ∧ ∃ r, s.proceed call ending = some (.pairs r)) := by
  unfold proceed
  cases ended : ending.result? call (s.limitText call) with
  | none => exact absurd (Ending.result?_eq_none_iff.mp ended) real
  | some result =>
    cases result with
    | error f =>
      refine .inl ⟨?_, .error f, rfl, rfl⟩
      rintro ⟨-, ⟨payload, rfl⟩, -⟩
      cases ended
    | ok payload =>
      have returned := Ending.result?_eq_ok_iff.mp ended
      dsimp only
      split
      · rename_i goes
        exact .inr ⟨⟨goes.1, ⟨payload, returned⟩, goes.2⟩, _, rfl⟩
      · rename_i stays
        exact .inl ⟨fun goes => stays ⟨goes.1, goes.2.2⟩, .ok payload, rfl, rfl⟩

/-- The failure with which an operation is refused, if the session has forgotten its client. -/
def refusal? (s : Session) (action : String) : Option Failure :=
  if s.released then some (.noClient action) else none

/-- Discovery, given what reading the client's tree gives. -/
def discover (s : Session) (reading : Except Failure (Option Tree)) : Except Failure Tree :=
  match s.refusal? "discover" with
  | some f => .error f
  | none => discovered reading

/-- A characteristic, given what the client finds. -/
def characteristic (s : Session) (found : Option Characteristic) : Option Characteristic :=
  if s.released then none else found

/-- Forget the client. -/
def release (s : Session) : Session :=
  { s with released := true }

/-- The session as text. -/
def text (s : Session) : String :=
  "GattSession(address=" ++ Text.quoted s.address ++ ")"

end Session

end SensorLink.Gatt
