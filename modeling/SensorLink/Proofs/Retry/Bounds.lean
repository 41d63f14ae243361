/-
# The bounds of the delays

A schedule with accepted, finite parameters never gives a delay below the initial nor
above the greatest one.  But the factor is raised to its power before the greatest delay is
applied: from the point on at which the power leaves the doubles there is no delay at all,
and a policy that got there stays there until it is reset.  A factor of one never gets
there within the integers that are doubles; every greater factor does.  So a supervisor
sets the timer of another attempt after a failed one exactly as long as there is a delay.
-/

import SensorLink.Link.Seconds
import SensorLink.Proofs.Decimal.Power
import SensorLink.Proofs.Supervisor.Restart

namespace SensorLink

open Decimal.Binary64

namespace Retry

/-- The parameters of a schedule are finite. -/
structure Schedule.Finite (s : Schedule) : Prop where
  initial : isFinite s.initial = true
  greatest : isFinite s.greatest = true
  backoff : isFinite s.backoff = true

/-- What is known of parameters that are accepted and finite. -/
structure Schedule.Valid (s : Schedule) : Prop where
  initial : Upright s.initial
  positive : 0 < place s.initial
  bounded : place s.initial < infinityBits
  greatest : Upright s.greatest
  ordered : place s.initial ≤ place s.greatest
  backoff : Upright s.backoff
  least : place 1 ≤ place s.backoff
  finite : place s.backoff < infinityBits

namespace Schedule

variable {s : Schedule} {initial backoff : Float} {greatest : Option Float} {n : ℕ} {d : Float}

theorem upright_one : Upright 1 := by
  rw [Upright, place_one]
  decide

/-- What the parameters are checked for. -/
theorem valid_of_make (made : make initial greatest backoff = .ok s) (finite : s.Finite) :
    s.Valid := by
  unfold make at made
  dsimp only at made
  split_ifs at made with zero below one
  obtain rfl := Except.ok.inj made
  obtain ⟨upright, positive⟩ := upright_of_not_le_zero finite.initial zero
  have highest := upright_of_not_lt finite.greatest upright positive below
  have factor := upright_of_not_lt finite.backoff upright_one (by decide +kernel) one
  rw [lt_iff highest upright, not_lt] at below
  rw [lt_iff factor upright_one, not_lt] at one
  have bounded := (isFinite_iff _).mp finite.initial
  have capped := (isFinite_iff _).mp finite.backoff
  rw [upright.place_mod] at bounded
  rw [factor.place_mod] at capped
  exact ⟨upright, positive, bounded, highest, below, factor, one, capped⟩

/-- The factor is a double of at least one. -/
theorem Valid.factor (valid : s.Valid) : ∃ m q, Canonical m q ∧
    magnitude s.backoff = .finite m q ∧ 1 ≤ size s.backoff := by
  obtain ⟨m, q, canonical, placed, known⟩ := valid.backoff.canonical valid.finite
  refine ⟨m, q, canonical, known, ?_⟩
  have least := valid.least
  rw [place_one, placed] at least
  have least := canonical_one.le_of_bitsOf_le canonical least
  rw [size, known]
  exact least.trans' (by norm_num)

/-- A delay is never below the initial nor above the greatest one. -/
theorem Valid.delay_bounds (valid : s.Valid) (given : s.delay n = .ok d) :
    s.initial ≤ d ∧ d ≤ s.greatest := by
  obtain ⟨m, q, -, known, least⟩ := valid.factor
  unfold delay at given
  split_ifs at given with finite
  cases raised : power? s.backoff n with
  | none => rw [raised] at given; cases given
  | some factor =>
    rw [raised] at given
    obtain rfl := Except.ok.inj given
    have one : Upright factor ∧ place 1 ≤ place factor := by
      rcases Nat.eq_zero_or_pos n with rfl | positive
      · obtain rfl : 1 = factor := Option.some.inj raised
        exact ⟨upright_one, le_rfl⟩
      · obtain ⟨-, -, -, -, made⟩ := power?_spec known least positive
        exact made factor raised
    obtain ⟨upright, grown⟩ := le_mul valid.initial valid.positive valid.bounded one.1 one.2
    split_ifs with capped
    · exact ⟨(le_iff valid.initial valid.greatest).mpr valid.ordered,
        (le_iff valid.greatest valid.greatest).mpr le_rfl⟩
    · rw [lt_iff valid.greatest upright, not_lt] at capped
      exact ⟨(le_iff valid.initial upright).mpr grown, (le_iff upright valid.greatest).mpr capped⟩

/-- There is a delay as long as the power is not rounded to infinity. -/
theorem Valid.exists_delay (valid : s.Valid) (whole : (n : ℚ) < overflow)
    (bounded : size s.backoff ^ (nearestInt n).natAbs < overflow) : ∃ d, s.delay n = .ok d := by
  obtain ⟨m, q, -, known, least⟩ := valid.factor
  obtain ⟨factor, raised⟩ := exists_power?_of_lt known least bounded
  rw [delay, if_pos ((isFinite_ofInt_iff n).mpr whole), raised]
  exact ⟨_, rfl⟩

/-- There is no delay from a power of `2 ^ 1024` on. -/
theorem Valid.delay_eq_error (valid : s.Valid) (itself : nearestInt n = n) (small : n ≤ 2 ^ 62)
    (beyond : 2 ^ 1024 ≤ size s.backoff ^ n) : s.delay n = .error .delayOverflow := by
  obtain ⟨m, q, -, known, least⟩ := valid.factor
  have whole : (n : ℚ) < overflow := by
    have small : (n : ℚ) ≤ 2 ^ 62 := by exact_mod_cast small
    exact small.trans_lt (two_pow_lt_overflow (by decide))
  rw [delay, if_pos ((isFinite_ofInt_iff n).mpr whole),
    power?_eq_none known least itself small beyond]

/-- A factor that is greater than one leaves no delay after that many failures. -/
theorem Valid.delay_of_grows (valid : s.Valid) (grows : 1 < size s.backoff) :
    s.delay (2 ^ 62 : ℕ) = .error .delayOverflow := by
  obtain ⟨m, q, canonical, known, -⟩ := valid.factor
  have double : Canonical (2 ^ 52) 10 := ⟨by decide, by decide, .inl le_rfl⟩
  have itself : nearestInt (2 ^ 62 : ℕ) = (2 ^ 62 : ℕ) :=
    nearestInt_eq (Nat.two_pow_pos 62) double (by decide) (by norm_num)
  exact valid.delay_eq_error itself le_rfl (two_pow_le_size_pow canonical known grows)

end Schedule

/-- What is asked of a policy. -/
inductive Request where
  | next
  | reset
  deriving DecidableEq, Repr

namespace Policy

variable {p p' : Policy} {d : Float} {f : Failure} {requests : List Request}

/-- A policy after a request; one for a delay that fails changes nothing. -/
def answer (p : Policy) : Request → Policy
  | .reset => p.reset
  | .next =>
    match p.next with
    | .ok (_, p') => p'
    | .error _ => p

/-- A policy after requests. -/
def after (p : Policy) (requests : List Request) : Policy :=
  requests.foldl answer p

theorem next_eq_ok_iff : p.next = .ok (d, p') ↔
    p.schedule.delay p.failures = .ok d ∧ p' = { p with failures := p.failures + 1 } := by
  rw [next]
  cases p.schedule.delay p.failures <;> simp [Except.map, eq_comm]

theorem next_eq_error_iff : p.next = .error f ↔ p.schedule.delay p.failures = .error f := by
  rw [next]
  cases p.schedule.delay p.failures <;> simp [Except.map]

@[simp]
theorem schedule_answer (p : Policy) (request : Request) :
    (p.answer request).schedule = p.schedule := by
  cases request with
  | reset => rfl
  | next =>
    cases given : p.next with
    | error f => simp [answer, given]
    | ok answered => simp [answer, given, (next_eq_ok_iff.mp given).2]

@[simp]
theorem schedule_after (p : Policy) (requests : List Request) :
    (p.after requests).schedule = p.schedule := by
  induction requests generalizing p with
  | nil => rfl
  | cons request rest ih => exact (ih _).trans (p.schedule_answer request)

/-- A policy without a delay to give stays as it is, until it is reset. -/
theorem after_replicate (failed : p.next = .error f) (k : ℕ) :
    p.after (List.replicate k .next) = p := by
  have stays : p.answer .next = p := by rw [answer, failed]
  induction k with
  | zero => rfl
  | succ k ih => rwa [List.replicate_succ, after, List.foldl_cons, stays]

/-- Nothing counts beyond a number of failures that leaves no delay. -/
theorem failures_answer_le {limit : ℕ} (exhausted : p.schedule.delay limit = .error f)
    (le : p.failures ≤ limit) (request : Request) : (p.answer request).failures ≤ limit := by
  cases request with
  | reset => exact Nat.zero_le _
  | next =>
    cases given : p.next with
    | error f => rwa [answer, given]
    | ok answered =>
      obtain ⟨d, p'⟩ := answered
      obtain ⟨known, rfl⟩ := next_eq_ok_iff.mp given
      rw [answer, given]
      refine le.lt_of_ne ?_
      rintro rfl
      exact nomatch known.symm.trans exhausted

theorem failures_after_le {limit : ℕ} (exhausted : p.schedule.delay limit = .error f)
    (le : p.failures ≤ limit) (requests : List Request) : (p.after requests).failures ≤ limit := by
  induction requests generalizing p with
  | nil => exact le
  | cons request rest ih =>
    exact ih (by rwa [schedule_answer]) (failures_answer_le exhausted le request)

/-- What a policy answers, by the number of its failures. -/
structure Answers (p : Policy) : Prop where
  /-- A delay is never below the initial nor above the greatest one, and counts as a failure. -/
  bounded : ∀ d p', p.next = .ok (d, p') →
    (p.schedule.initial ≤ d ∧ d ≤ p.schedule.greatest) ∧ p' = { p with failures := p.failures + 1 }
  /-- There is a delay as long as the power of the factor is not rounded to infinity.  The exponent
  is the double next to the number of failures, which is the number itself up to `2 ^ 53`. -/
  available : (p.failures : ℚ) < overflow →
    size p.schedule.backoff ^ (nearestInt p.failures).natAbs < overflow →
    ∃ d p', p.next = .ok (d, p')
  /-- From a power of `2 ^ 1024` on there is none. -/
  exhausted : p.failures < 2 ^ 53 → 2 ^ 1024 ≤ size p.schedule.backoff ^ p.failures →
    p.next = .error .delayOverflow
  /-- With a factor of one there is a delay after every number of failures that is a double. -/
  level : size p.schedule.backoff = 1 → (p.failures : ℚ) < overflow → ∃ d p', p.next = .ok (d, p')
  /-- After a number of failures beyond the doubles there is none. -/
  uncounted : overflow ≤ p.failures → p.next = .error .attemptOverflow
  /-- If there is none, there is none until the policy is reset. -/
  stuck : ∀ f, p.next = .error f → ∀ k, p.after (List.replicate k .next) = p

theorem exists_next (given : ∃ d, p.schedule.delay p.failures = .ok d) :
    ∃ d p', p.next = .ok (d, p') := by
  obtain ⟨d, known⟩ := given
  exact ⟨d, _, next_eq_ok_iff.mpr ⟨known, rfl⟩⟩

theorem lt_overflow_of_lt {n : ℕ} (short : n < 2 ^ 53) : (n : ℚ) < overflow := by
  have small : (n : ℚ) < 2 ^ 53 := by exact_mod_cast short
  exact small.trans (two_pow_lt_overflow (by decide))

theorem answers_of_valid (valid : p.schedule.Valid) : p.Answers where
  bounded d p' given := by
    obtain ⟨known, counted⟩ := next_eq_ok_iff.mp given
    exact ⟨valid.delay_bounds known, counted⟩
  available whole bounded := exists_next (valid.exists_delay whole bounded)
  exhausted short beyond := by
    refine next_eq_error_iff.mpr (valid.delay_eq_error (nearestInt_of_lt short) ?_ beyond)
    exact short.le.trans (by decide)
  level one whole := by
    refine exists_next (valid.exists_delay whole ?_)
    rw [one, one_pow]
    exact (pow_zero (2 : ℚ)).symm.trans_lt (two_pow_lt_overflow (by decide))
  uncounted beyond := by
    refine next_eq_error_iff.mpr (if_neg fun finite => ?_)
    exact absurd ((isFinite_ofInt_iff _).mp finite) (not_lt.mpr beyond)
  stuck f failed k := after_replicate failed k

end Policy

end Retry

namespace Link.Choices

open Retry (Policy Request Schedule)

/-- **The delay before a retry.**  Let the parameters of a schedule be accepted and finite.
Whatever was asked of it before, a policy answers with a delay within the bounds, as long as the
power of its factor is a double; and a factor greater than one is sure to grow beyond the doubles,
if the policy is asked often enough without a reset.  A supervisor that gives an attempt up asks
the policy for its own number of failures: it sets the timer of the next attempt if there is a
delay, and else sets none and lets the failure escape. -/
theorem retries_bounded (c : Choices) {initial backoff : Float} {greatest : Option Float}
    (made : Schedule.make initial greatest backoff = .ok c.schedule) (finite : c.schedule.Finite) :
    (∀ p : Policy, p.schedule = c.schedule → p.Answers) ∧
      (∀ requests, let p := (Policy.ofSchedule c.schedule).after requests
        p.schedule = c.schedule ∧ (1 < size c.schedule.backoff → p.failures ≤ 2 ^ 62)) ∧
      ∀ (s : Supervisor Float) (session : Option ℕ), s.stopped = false →
        let p : Policy := ⟨c.schedule, s.failures⟩
        let outcome := s.failAttempt c.settings session
        (∀ d p', p.next = .ok (d, p') → s.Retimes outcome.1 d ∧
          outcome.1.failures = p'.failures ∧ outcome.2 = none) ∧
        ∀ f, p.next = .error f → s.Calm outcome.1 ∧ outcome.2 = some f := by
  have valid := Schedule.valid_of_make made finite
  refine ⟨fun p same => Policy.answers_of_valid (same ▸ valid),
    fun requests => ⟨?_, fun grows => ?_⟩,
    fun s session goesOn => ⟨fun d p' given => ?_, fun f none => ?_⟩⟩
  · exact Policy.schedule_after _ requests
  · exact Policy.failures_after_le (valid.delay_of_grows grows) (Nat.zero_le _) requests
  · obtain ⟨known, rfl⟩ := Policy.next_eq_ok_iff.mp given
    exact Supervisor.Retimes.failAttempt goesOn known session
  · exact Supervisor.Calm.failAttempt (Policy.next_eq_error_iff.mp none) session

/-- Delays that double from a second to a minute. -/
def doubling : Choices where
  schedule := ⟨1, 60, 2⟩

theorem size_two : size 2 = 2 := by
  have known : magnitude 2 = .finite (2 ^ 52) (-51) := by decide +kernel
  rw [size, known]
  norm_num [Scaled.value]

/-- A policy that doubles its delays has one after 1023 failures, and none after the next. -/
theorem retries_bounded_doubling :
    Schedule.make 1 (some 60) 2 = .ok doubling.schedule ∧ doubling.schedule.Finite ∧
      ∀ p : Policy, p.schedule = doubling.schedule →
        (p.failures = 1023 → ∃ d p', p.next = .ok (d, p') ∧ 1 ≤ d ∧ d ≤ 60) ∧
        (p.failures = 1024 → p.next = .error .delayOverflow) := by
  have made : Schedule.make 1 (some 60) 2 = .ok doubling.schedule :=
    Schedule.make_eq_ok (by decide +kernel) (by decide +kernel) (by decide +kernel)
  have finite : doubling.schedule.Finite :=
    ⟨by decide +kernel, by decide +kernel, by decide +kernel⟩
  refine ⟨made, finite, fun p same => ?_⟩
  obtain ⟨answers, -, -⟩ := retries_bounded doubling made finite
  have answers := answers p same
  have factor : size p.schedule.backoff = 2 := by rw [same]; exact size_two
  constructor
  · intro counted
    obtain ⟨d, p', given⟩ := answers.available (Policy.lt_overflow_of_lt (by omega)) (by
      rw [factor, counted, nearestInt_of_lt (by decide), Int.natAbs_natCast]
      exact two_pow_lt_overflow (by decide))
    have bounds := (answers.bounded d p' given).1
    rw [same] at bounds
    exact ⟨d, p', given, bounds⟩
  · intro counted
    exact answers.exhausted (by omega) (by rw [factor, counted])

/-- Delays that grow to a minute at once. -/
def steep : Choices where
  schedule := ⟨1, 60, 1e200⟩

/-- A peripheral whose links have dropped when they should be up. -/
def awayWorld : Surroundings :=
  { Supervisor.plainWorld with link := fun _ => .reported false }

/-- The events of three failed attempts. -/
def threeFailures : List Event :=
  [.started, .expired (.retry 0), .begins (.attempt 0), .resumed (.attempt 0) (.returned []),
    .expired (.retry 1), .begins (.attempt 1), .resumed (.attempt 1) (.returned []),
    .expired (.retry 2), .begins (.attempt 2), .resumed (.attempt 2) (.returned [])]

/-- The parameters are accepted and finite, and there is no third delay, so that the supervisor sets
no timer after the third failure: it goes on, and never tries again. -/
theorem stranded_steep :
    let p := (Policy.ofSchedule steep.schedule).after [.next, .next]
    let s := Supervisor.play steep.settings awayWorld .fresh threeFailures
    Schedule.make 1 (some 60) 1e200 = .ok steep.schedule ∧ steep.schedule.Finite ∧
      p.next = .error .delayOverflow ∧ (∃ past, Supervisor.Run steep.settings past s) ∧
      s.stopped = false ∧ ¬s.Pursues 0 := by
  intro p s
  have made : Schedule.make 1 (some 60) 1e200 = .ok steep.schedule :=
    Schedule.make_eq_ok (by decide +kernel) (by decide +kernel) (by decide +kernel)
  have counted : p.failures = 2 := by decide +kernel
  have beyond : power? 1e200 2 = none := by decide +kernel
  have none : steep.schedule.delay 2 = .error .delayOverflow := by
    unfold Schedule.delay
    rw [if_pos (by decide +kernel), show steep.schedule.backoff = 1e200 from rfl, beyond]
  have idle : s.loop.tasks = [] := by decide +kernel
  have untimed : s.loop.timers = [] := by decide +kernel
  have disconnected : s.machine.state = .disconnected := by decide +kernel
  refine ⟨made, ⟨by decide +kernel, by decide +kernel, by decide +kernel⟩, ?_,
    ⟨_, Supervisor.run_play (fun _ _ => rfl) rfl⟩, by decide +kernel, ?_⟩
  · rw [Policy.next_eq_error_iff, counted, Policy.schedule_after]
    exact none
  · rw [Supervisor.pursues_of_disconnected disconnected]
    simp [Supervisor.Due, Supervisor.Ready, Link.Loop.point?, idle, untimed]

end Link.Choices

end SensorLink
