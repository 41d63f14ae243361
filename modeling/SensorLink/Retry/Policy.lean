/-
# The delay before a retry

The delay starts at an initial value and is multiplied by a factor with every
further failure, up to a greatest value.  With a factor of one it never changes.
-/

import SensorLink.Decimal.Style
import SensorLink.Failure

namespace SensorLink.Retry

/-- Why parameters are refused. -/
inductive PolicyError where
  | initialNotPositive (initial : Float)
  | greatestBelowInitial (greatest initial : Float)
  | backoffBelowOne (backoff : Float)

/-- The text of a refusal. -/
def PolicyError.message : PolicyError → String
  | initialNotPositive initial => "initial_delay must be > 0, got " ++ Decimal.showFloat initial
  | greatestBelowInitial greatest initial =>
    "max_delay (" ++ Decimal.showFloat greatest ++ ") must be >= initial_delay (" ++
      Decimal.showFloat initial ++ ")"
  | backoffBelowOne backoff => "backoff must be >= 1.0, got " ++ Decimal.showFloat backoff

/-- The parameters of a policy, in seconds. -/
structure Schedule where
  initial : Float
  greatest : Float
  backoff : Float

/-- The delay before the first retry, unless another is given. -/
def defaultInitial : Float := 2

/-- The factor between delays, unless another is given. -/
def defaultBackoff : Float := 1

namespace Schedule

/-- Check the parameters; the greatest delay is the initial one unless another is given. -/
def make (initial : Float := defaultInitial) (greatest : Option Float := none)
    (backoff : Float := defaultBackoff) : Except PolicyError Schedule :=
  let greatest := greatest.getD initial
  if initial ≤ 0 then .error (.initialNotPositive initial)
  else if greatest < initial then .error (.greatestBelowInitial greatest initial)
  else if backoff < 1 then .error (.backoffBelowOne backoff)
  else .ok ⟨initial, greatest, backoff⟩

/-- Parameters that pass the checks make a schedule. -/
theorem make_eq_ok {initial backoff : Float} {greatest : Option Float} (positive : ¬initial ≤ 0)
    (ordered : ¬greatest.getD initial < initial) (least : ¬backoff < 1) :
    make initial greatest backoff = .ok ⟨initial, greatest.getD initial, backoff⟩ := by
  unfold make
  dsimp only
  rw [if_neg positive, if_neg ordered, if_neg least]

/-- The schedule that always waits the same time. -/
def fixed (delay : Float) : Except PolicyError Schedule :=
  make delay (some delay) 1

/-- The delay after a number of failures. -/
def delay (s : Schedule) (failures : Int) : Except Failure Float :=
  if Decimal.Binary64.isFinite (Decimal.Binary64.ofInt failures) then
    match Decimal.Binary64.power? s.backoff failures with
    | none => .error .delayOverflow
    | some factor =>
      let grown := s.initial * factor
      .ok (if s.greatest < grown then s.greatest else grown)
  else .error .attemptOverflow

end Schedule

/-- A schedule and the number of failures since the last success. -/
structure Policy where
  schedule : Schedule
  failures : Nat

namespace Policy

/-- A policy before the first failure. -/
def ofSchedule (s : Schedule) : Policy :=
  ⟨s, 0⟩

/-- Forget the failures. -/
def reset (p : Policy) : Policy :=
  { p with failures := 0 }

/-- The delay before the next attempt; a failure is counted only if there is one. -/
def next (p : Policy) : Except Failure (Float × Policy) :=
  (p.schedule.delay p.failures).map fun d => (d, { p with failures := p.failures + 1 })

end Policy

end SensorLink.Retry
