/-
# Reckoning with the next attempt

A history with times tells how many retries the current outage has seen, and when the
next attempt is due.  `Reckoned` says that the state agrees with it: the failures are
the retries of the outage, a timer that is live is the latest that was set, and an
attempt that has not begun was created when the wait of that timer was over.

Delays and times are exact here, and the loop is punctual.
-/

import Mathlib.Algebra.Order.Field.Basic
import Mathlib.Algebra.Order.Ring.Unbundled.Rat
import Mathlib.Data.List.Induction
import Mathlib.Tactic.Linarith
import SensorLink.Proofs.Loop.Clock
import SensorLink.Proofs.Supervisor.Pace

namespace SensorLink

open Link (Beat Loop Punctual Settings Surroundings TaskId TimerId)
open Sensor (Kind)

/-- Delays that grow by a factor from an initial one up to a greatest. -/
structure Retry.Progression where
  initial : ℚ
  greatest : ℚ
  backoff : ℚ
  positive : 0 < initial
  initial_le_greatest : initial ≤ greatest
  one_le_backoff : 1 ≤ backoff

namespace Retry.Progression

/-- The delay after a number of failures. -/
def delay (p : Progression) (failures : ℕ) : ℚ :=
  min (p.initial * p.backoff ^ failures) p.greatest

@[simp]
theorem delay_zero (p : Progression) : p.delay 0 = p.initial := by
  rw [delay, pow_zero, mul_one, min_eq_left p.initial_le_greatest]

/-- Delays never decrease. -/
theorem delay_mono (p : Progression) : Monotone p.delay := by
  intro i j le
  have grown : p.backoff ^ i ≤ p.backoff ^ j := pow_le_pow_right₀ p.one_le_backoff le
  exact min_le_min_right _ (mul_le_mul_of_nonneg_left grown p.positive.le)

theorem initial_le_delay (p : Progression) (failures : ℕ) : p.initial ≤ p.delay failures :=
  p.delay_zero.symm.trans_le (p.delay_mono failures.zero_le)

/-- If no delay is greater than the initial one, all are the same. -/
theorem delay_of_fixed (p : Progression) (fixed : p.greatest = p.initial) (failures : ℕ) :
    p.delay failures = p.initial :=
  le_antisymm (fixed ▸ min_le_right _ _) (p.initial_le_delay failures)

end Retry.Progression

open Retry (Progression)

/-- The settings that wait as a progression says, and not at all before the first attempt. -/
def Link.Settings.following (cfg : Settings ℚ) (p : Progression) : Settings ℚ :=
  { cfg with retryDelay := fun failures => .ok (p.delay failures), atOnce := 0 }

/-- Whether an event asks the supervisor to start. -/
def Event.isStart : Event → Bool
  | .started => true
  | _ => false

/-- The timer whose callback an event is. -/
def Event.timer : Event → Option TimerId
  | .expired timer => some timer
  | _ => none

namespace Supervisor

variable {δ : Type}

namespace Moment

/-- Whether a stopped supervisor is started. -/
def starts (m : Moment δ) : Bool :=
  m.event.isStart && m.before.stopped

/-- Whether an outage is over, because the supervisor is started or the connection becomes ready. -/
def renews (m : Moment δ) (cfg : Settings δ) : Bool :=
  m.starts || m.before.machine.state != .ready && (m.after cfg).machine.state == .ready

/-- Whether a timer is set for an attempt. -/
def times (m : Moment δ) (cfg : Settings δ) : Bool :=
  (m.after cfg).loop.timers.any fun
    | .retry r => !m.before.loop.timers.contains (.retry r)
    | _ => false

/-- Whether a retry is scheduled, after a failure or the end of a connection. -/
def retries (m : Moment δ) (cfg : Settings δ) : Bool :=
  m.times cfg && !m.event.isStart

/-- Whether a session is opened. -/
def opens (m : Moment δ) (cfg : Settings δ) : Bool :=
  m.before.sessions.length < (m.after cfg).sessions.length

end Moment

/-- How many retries were scheduled in the current outage. -/
def retriesSince (cfg : Settings δ) (past : List (Moment δ)) : Nat :=
  past.foldl (fun count m =>
    if m.renews cfg then 0 else if m.retries cfg then count + 1 else count) 0

/-- A callback that has run, with the time at which it did. -/
structure Stamped (δ : Type) extends Moment δ where
  time : δ

/-- A callback as the clock sees it. -/
def Stamped.beat (m : Stamped δ) (cfg : Settings δ) : Beat δ :=
  ⟨m.time, m.event.timer, m.before.loop, (m.after cfg).loop⟩

/-- The callbacks of a history. -/
def untimed (past : List (Stamped δ)) : List (Moment δ) :=
  past.map Stamped.toMoment

@[simp]
theorem untimed_append (past later : List (Stamped δ)) :
    untimed (past ++ later) = untimed past ++ untimed later :=
  List.map_append

theorem untimed_concat (past : List (Stamped δ)) (m : Stamped δ) :
    untimed (past ++ [m]) = untimed past ++ [m.toMoment] :=
  untimed_append past [m]

@[simp]
theorem untimed_cons (m : Stamped δ) (later : List (Stamped δ)) :
    untimed (m :: later) = m.toMoment :: untimed later :=
  rfl

theorem forall_mem_untimed {P : Moment δ → Prop} {past : List (Stamped δ)} :
    (∀ m ∈ untimed past, P m) ↔ ∀ m ∈ past, P m.toMoment :=
  List.forall_mem_map

/-- The wait of the timer that a callback sets for an attempt, given the callbacks before it. -/
def waitAfter (p : Progression) (cfg : Settings ℚ) (before : List (Stamped ℚ)) (m : Stamped ℚ) :
    ℚ :=
  if m.event.isStart then 0 else p.delay (retriesSince cfg (untimed before))

variable {p : Progression} {cfg : Settings ℚ} {past : List (Stamped ℚ)} {m : Stamped ℚ}
  {s : Supervisor ℚ} {alone : Prop} {vouch : Nat → Nat → Kind → Float → Prop} {wait time : ℚ}

theorem retriesSince_concat (cfg : Settings δ) (past : List (Moment δ)) (m : Moment δ) :
    retriesSince cfg (past ++ [m]) = if m.renews cfg then 0
      else if m.retries cfg then retriesSince cfg past + 1 else retriesSince cfg past := by
  rw [retriesSince, List.foldl_append]
  rfl

/-- As long as the outage goes on, every retry counts. -/
theorem retriesSince_append {cfg : Settings δ} {past later : List (Moment δ)}
    (ongoing : ∀ m ∈ later, m.renews cfg = false) :
    retriesSince cfg (past ++ later) = retriesSince cfg past + later.countP (·.retries cfg) := by
  induction later using List.reverseRecOn with
  | nil => simp
  | append_singleton later m ih =>
    simp only [List.forall_mem_append, List.forall_mem_singleton] at ongoing
    rw [← List.append_assoc, retriesSince_concat, ongoing.2, ih ongoing.1, List.countP_append]
    by_cases retries : m.retries cfg = true
    · simp [retries, Nat.add_assoc]
    · simp [retries]

namespace Moment

variable {cfg : Settings δ} {m : Moment δ} {wait : δ}

theorem times_eq_true_iff : m.times cfg = true ↔
    ∃ r, (m.after cfg).Due r ∧ ¬m.before.Due r := by
  rw [times, List.any_eq_true]
  constructor
  · rintro ⟨timer, live, new⟩
    cases timer with
    | retry r => exact ⟨r, live, fun due => by simp [show TimerId.retry r ∈ _ from due] at new⟩
    | discovery | tick => cases new
  · rintro ⟨r, live, absent⟩
    exact ⟨.retry r, live, by simpa [Due] using absent⟩

/-- A quiet callback sets no timer. -/
theorem times_of_quiet (quiet : m.before.Quiet (m.after cfg)) : m.times cfg = false := by
  rw [← Bool.not_eq_true, times_eq_true_iff]
  rintro ⟨r, live, absent⟩
  exact absent (quiet.due r live)

theorem opens_eq_false (same : (m.after cfg).sessions.length = m.before.sessions.length) :
    m.opens cfg = false := by
  simp [opens, same]

/-- An outage goes on unless a stopped supervisor is started or the connection becomes ready. -/
theorem renews_eq_false (starts : m.starts = false)
    (up : (m.after cfg).machine.state = .ready → m.before.machine.state = .ready) :
    m.renews cfg = false := by
  simpa [renews, starts] using fun before after => before (up after)

theorem isStart_eq_false (other : m.event ≠ .started) : m.event.isStart = false := by
  unfold Event.isStart
  split
  · exact absurd ‹_› other
  · rfl

/-- A start of a supervisor that is running does not count. -/
theorem starts_eq_false (running : m.event = .started → m.before.stopped = false) :
    m.starts = false := by
  by_cases started : m.event = .started
  · rw [starts, running started, Bool.and_false]
  · rw [starts, isStart_eq_false started, Bool.false_and]

end Moment

/-- A callback that sets the timer anew sets it on the clock. -/
theorem Stamped.sets {cfg : Settings δ} {m : Stamped δ} {wait : δ}
    (numbered : ∀ r, m.before.Due r → r < m.before.retries)
    (retimes : m.before.Retimes (m.after cfg) wait) :
    (m.beat cfg).Sets (.retry m.before.retries) (.delay wait) where
  absent due := Nat.lt_irrefl _ (numbered _ due)
  live := retimes.due
  written := retimes.written

theorem Stamped.times_of_sets {cfg : Settings δ} {m : Stamped δ} {r : Nat} {wait : Link.Wait δ}
    (sets : (m.beat cfg).Sets (.retry r) wait) : m.times cfg = true :=
  Moment.times_eq_true_iff.mpr ⟨r, sets.live, sets.absent⟩

/-- A run comes to each of its callbacks through those before it. -/
theorem Run.of_append_cons {cfg : Settings δ} {earlier later : List (Moment δ)} {m : Moment δ}
    {s : Supervisor δ} (run : Run cfg (earlier ++ m :: later) s) :
    Run cfg earlier m.before ∧ Lawful m.env m.event := by
  induction later using List.reverseRecOn generalizing s with
  | nil => exact ⟨run.of_concat.1, run.of_concat.2.1⟩
  | append_singleton later last ih =>
    rw [← List.cons_append, ← List.append_assoc] at run
    exact ih run.of_concat.1

/-- The wait of the latest timer is over at a time, and no session was opened since it was set. -/
def Due.Latest (p : Progression) (cfg : Settings ℚ) (past : List (Stamped ℚ)) (time : ℚ) : Prop :=
  ∃ before e between, past = before ++ e :: between ∧ e.times cfg = true ∧
    (∀ b ∈ between, b.times cfg = false ∧ b.opens cfg = false) ∧
    time = e.time + waitAfter p cfg before e

namespace Due.Latest

theorem concat (latest : Latest p cfg past time) (times : m.times cfg = false)
    (opens : m.opens cfg = false) : Latest p cfg (past ++ [m]) time := by
  obtain ⟨before, e, between, rfl, set, idle, elapsed⟩ := latest
  refine ⟨before, e, between ++ [m], by simp, set, ?_, elapsed⟩
  rw [List.forall_mem_append, List.forall_mem_singleton]
  exact ⟨idle, times, opens⟩

theorem of_times (times : m.times cfg = true) :
    Latest p cfg (past ++ [m]) (m.time + waitAfter p cfg past m) :=
  ⟨past, m, [], rfl, times, List.forall_mem_nil _, rfl⟩

/-- A timer that was set last is the latest. -/
theorem eq_of_times (past : List (Stamped ℚ)) (latest : Latest p cfg (past ++ [m]) time)
    (times : m.times cfg = true) : time = m.time + waitAfter p cfg past m := by
  obtain ⟨before, e, between, split, -, idle, elapsed⟩ := latest
  rcases List.eq_nil_or_concat' between with rfl | ⟨rest, last, rfl⟩
  · obtain ⟨rfl, rfl⟩ : past = before ∧ m = e := by simpa using List.append_inj' split rfl
    exact elapsed
  · obtain rfl : m = last := by
      rw [← List.cons_append, ← List.append_assoc] at split
      simpa using List.append_inj_right' split rfl
    exact nomatch (idle m (by simp)).1.symm.trans times

end Due.Latest

/-- While an attempt has not begun, no timer is live. -/
theorem Inv.not_due_of_ready {n r : Nat} (inv : Inv cfg alone vouch none s) (ready : s.Ready n) :
    ¬s.Due r :=
  fun due => nomatch (inv.eager_of_ready ready).2.2.2.symm.trans (inv.retry r due)

/-- There are no attempts but those that were created. -/
theorem Inv.isLive_attempt_eq_false {n : Nat} (inv : Inv cfg alone vouch none s)
    (new : s.attempts ≤ n) : s.loop.isLive (.attempt n) = false := by
  cases here : s.loop.point? (.attempt n) with
  | none => rw [Loop.isLive, here]; rfl
  | some point =>
    rcases inv.attempts n point (by simp) here with ⟨latest, -⟩ | ⟨earlier, -⟩ <;> omega

/-- What is known of the next attempt after a history. -/
structure Reckoned (p : Progression) (cfg : Settings ℚ) (past : List (Stamped ℚ))
    (s : Supervisor ℚ) : Prop where
  /-- The failures are the retries of the outage. -/
  counted : s.stopped = false → s.failures = retriesSince cfg (untimed past)
  /-- Timers are numbered. -/
  numbered : ∀ r, s.Due r → r < s.retries
  /-- The live timer is the latest. -/
  due : ∀ r, s.Due r → ∃ e ∈ past, ∃ wait, (e.beat cfg).Sets (.retry r) (.delay wait) ∧
    Due.Latest p cfg past (e.time + wait)
  /-- An attempt that has not begun was created when the latest timer went off. -/
  ready : ∀ n, s.Ready n → ∃ c ∈ past, (c.beat cfg).Spawns (.attempt n) ∧
    Due.Latest p cfg past c.time

namespace Reckoned

theorem fresh : Reckoned p cfg [] .fresh where
  counted _ := rfl
  numbered _ := nofun
  due _ := nofun
  ready _ := nofun

/-- A quiet callback that does not end the outage keeps the count. -/
theorem counted_of_quiet (reckoned : Reckoned p cfg past m.before)
    (quiet : m.before.Quiet (m.after cfg))
    (failures : (m.after cfg).stopped = false → (m.after cfg).failures = m.before.failures)
    (running : m.event = .started → m.before.stopped = false)
    (up : (m.after cfg).machine.state = .ready → m.before.machine.state = .ready)
    (goesOn : (m.after cfg).stopped = false) :
    (m.after cfg).failures = retriesSince cfg (untimed (past ++ [m])) := by
  have renews : m.renews cfg = false := Moment.renews_eq_false (Moment.starts_eq_false running) up
  have retries : m.retries cfg = false := by
    rw [Moment.retries, Moment.times_of_quiet quiet, Bool.false_and]
  rw [failures goesOn, reckoned.counted (quiet.stopped goesOn), untimed_concat,
    retriesSince_concat, renews, retries]
  rfl

/-- A quiet callback that opens no session keeps what is pending. -/
theorem quiet (reckoned : Reckoned p cfg past m.before)
    (quiet : m.before.Quiet (m.after cfg))
    (same : (m.after cfg).sessions.length = m.before.sessions.length)
    (ready : ∀ n, (m.after cfg).Ready n → m.before.Ready n ∨
      (m.beat cfg).Spawns (.attempt n) ∧ Due.Latest p cfg past m.time)
    (counted : (m.after cfg).stopped = false →
      (m.after cfg).failures = retriesSince cfg (untimed (past ++ [m]))) :
    Reckoned p cfg (past ++ [m]) (m.after cfg) where
  counted := counted
  numbered r due := quiet.retries ▸ reckoned.numbered r (quiet.due r due)
  due r due := by
    obtain ⟨e, mem, wait, sets, latest⟩ := reckoned.due r (quiet.due r due)
    exact ⟨e, List.mem_append_left _ mem, wait, sets,
      latest.concat (Moment.times_of_quiet quiet) (Moment.opens_eq_false same)⟩
  ready n here := by
    have still {time : ℚ} (latest : Due.Latest p cfg past time) :
        Due.Latest p cfg (past ++ [m]) time :=
      latest.concat (Moment.times_of_quiet quiet) (Moment.opens_eq_false same)
    rcases ready n here with before | ⟨spawns, latest⟩
    · obtain ⟨c, mem, spawns, latest⟩ := reckoned.ready n before
      exact ⟨c, List.mem_append_left _ mem, spawns, still latest⟩
    · exact ⟨m, List.mem_append_right _ (List.mem_singleton_self m), spawns, still latest⟩

/-- A callback that sets the timer anew leaves nothing else pending. -/
theorem retimed (reckoned : Reckoned p cfg past m.before)
    (later : Inv cfg alone vouch none (m.after cfg))
    (retimes : m.before.Retimes (m.after cfg) wait) (waits : wait = waitAfter p cfg past m)
    (counted : (m.after cfg).failures = retriesSince cfg (untimed (past ++ [m]))) :
    Reckoned p cfg (past ++ [m]) (m.after cfg) where
  counted _ := counted
  numbered r due := by
    have same := (later.retry r due).symm.trans retimes.charge
    obtain rfl : r = m.before.retries := by simpa using same
    rw [retimes.retries]
    exact Nat.lt_succ_self _
  due r due := by
    have same := (later.retry r due).symm.trans retimes.charge
    obtain rfl : r = m.before.retries := by simpa using same
    have sets := m.sets reckoned.numbered retimes
    refine ⟨m, List.mem_append_right _ (List.mem_singleton_self m), wait, sets, ?_⟩
    rw [waits]
    exact .of_times (Stamped.times_of_sets sets)
  ready n here := absurd retimes.due (later.not_due_of_ready here)

/-- A timer goes off exactly when the wait of the latest timer is over. -/
theorem latest_of_expired (reckoned : Reckoned p cfg past m.before)
    (follows : ∀ a ∈ past, (a.beat cfg).Follows (m.beat cfg)) {r : Nat}
    (expired : m.event = .expired (.retry r)) (due : m.before.Due r) :
    Due.Latest p cfg past m.time := by
  obtain ⟨e, mem, wait, sets, latest⟩ := reckoned.due r due
  have timer : (m.beat cfg).timer = some (.retry r) := by rw [Stamped.beat, expired]; rfl
  have exact : m.time = e.time + wait := le_antisymm ((follows e mem).notLate _ _ sets due)
    ((follows e mem).notEarly _ _ sets timer due)
  rwa [exact]

/-- An attempt that has not begun is as late as the latest timer allows. -/
theorem latest_of_ready (reckoned : Reckoned p cfg past m.before)
    (follows : ∀ a ∈ past, (a.beat cfg).Follows (m.beat cfg)) {n : Nat}
    (ready : m.before.Ready n) : Due.Latest p cfg past m.time := by
  obtain ⟨c, mem, spawns, latest⟩ := reckoned.ready n ready
  have exact : m.time = c.time := le_antisymm ((follows c mem).atOnce _ _ spawns ready rfl)
    (follows c mem).ordered
  rwa [exact]

/-- A retry that is scheduled waits as long as the retries of the outage call for, and is one of
them. -/
theorem retried (reckoned : Reckoned p (cfg.following p) past m.before)
    (later : Inv (cfg.following p) alone vouch none (m.after (cfg.following p)))
    (other : m.event ≠ .started) (goesOn : m.before.stopped = false)
    (known : (cfg.following p).retryDelay m.before.failures = .ok wait)
    (counted : (m.after (cfg.following p)).failures = m.before.failures + 1)
    (retimes : m.before.Retimes (m.after (cfg.following p)) wait) :
    Reckoned p (cfg.following p) (past ++ [m]) (m.after (cfg.following p)) := by
  have times := Stamped.times_of_sets (m.sets reckoned.numbered retimes)
  have retries : m.retries (cfg.following p) = true := by
    rw [Moment.retries, times, Moment.isStart_eq_false other]
    rfl
  have renews : m.renews (cfg.following p) = false :=
    Moment.renews_eq_false (Moment.starts_eq_false fun same => absurd same other) retimes.up
  have waits : wait = waitAfter p (cfg.following p) past m := by
    rw [waitAfter, Moment.isStart_eq_false other, ← reckoned.counted goesOn]
    exact (Except.ok.inj known).symm
  refine reckoned.retimed later retimes waits ?_
  rw [counted, reckoned.counted goesOn, untimed_concat, retriesSince_concat, renews, retries]
  rfl

/-- A start begins an outage of its own, and waits for nothing. -/
theorem started (reckoned : Reckoned p (cfg.following p) past m.before)
    (later : Inv (cfg.following p) alone vouch none (m.after (cfg.following p)))
    (started : m.event = .started) (stopped : m.before.stopped = true)
    (counted : (m.after (cfg.following p)).failures = 0)
    (retimes : m.before.Retimes (m.after (cfg.following p)) (cfg.following p).atOnce) :
    Reckoned p (cfg.following p) (past ++ [m]) (m.after (cfg.following p)) := by
  have isStart : m.event.isStart = true := by rw [started]; rfl
  have renews : m.renews (cfg.following p) = true := by
    simp [Moment.renews, Moment.starts, isStart, stopped]
  refine reckoned.retimed later retimes ?_ ?_
  · rw [waitAfter, isStart]
    rfl
  · rw [counted, untimed_concat, retriesSince_concat, renews]
    rfl

/-- When an attempt takes its first step, nothing is left pending. -/
theorem opened {n : Nat} (reckoned : Reckoned p cfg past m.before)
    (inv : Inv cfg alone vouch none m.before) (begins : m.event = .begins (.attempt n))
    (ready : m.before.Ready n) (quiet : m.before.Quiet (m.after cfg))
    (failures : (m.after cfg).failures = m.before.failures)
    (up : (m.after cfg).machine.state ≠ .ready)
    (gone : ∀ n', (m.after cfg).Ready n' → n' ≠ n ∧ m.before.Ready n') :
    Reckoned p cfg (past ++ [m]) (m.after cfg) := by
  have idle (r : Nat) : ¬(m.after cfg).Due r := fun due =>
    inv.not_due_of_ready ready (quiet.due r due)
  have begun (n' : Nat) : ¬(m.after cfg).Ready n' := by
    intro here
    obtain ⟨other, ready'⟩ := gone n' here
    have charge := (inv.eager_of_ready ready).2.1
    exact other (Option.some.inj ((inv.eager_of_ready ready').2.1.symm.trans charge))
  exact {
    counted := reckoned.counted_of_quiet quiet (fun _ => failures) (by simp [begins])
      fun ready => absurd ready up
    numbered := fun r due => absurd due (idle r)
    due := fun r due => absurd due (idle r)
    ready := fun n' here => absurd here (begun n') }

/-- Every lawful callback keeps the reckoning. -/
theorem step (reckoned : Reckoned p (cfg.following p) past m.before)
    (inv : Inv (cfg.following p) alone vouch none m.before)
    (lawful : Lawful m.env m.event)
    (later : Inv (cfg.following p) alone vouch none (m.after (cfg.following p)))
    (follows : ∀ a ∈ past, (a.beat (cfg.following p)).Follows (m.beat (cfg.following p))) :
    Reckoned p (cfg.following p) (past ++ [m]) (m.after (cfg.following p)) := by
  have pace : Pace (cfg.following p) m.before m.event (m.after (cfg.following p)) :=
    .step inv lawful
  cases pace with
  | paces paces running =>
    cases paces with
    | calm calm =>
      exact reckoned.quiet calm.toQuiet calm.sessions (fun n ready => .inl (calm.ready n ready))
        (reckoned.counted_of_quiet calm.toQuiet calm.failures (fun same => (running same).1)
          calm.up)
    | retries goesOn known counted retimes =>
      refine reckoned.retried later (fun started => ?_) goesOn known counted retimes
      rw [(running started).2] at counted
      exact Nat.succ_ne_self _ counted.symm
  | starts started stopped counted retimes =>
    exact reckoned.started later started stopped counted retimes
  | creates expired due quiet same failures machine created only =>
    refine reckoned.quiet quiet same (fun n ready => ?_)
      (reckoned.counted_of_quiet quiet (fun _ => failures) (by simp [expired]) (machine ▸ id))
    refine (only n ready).imp_right ?_
    rintro rfl
    have live : (m.after (cfg.following p)).loop.isLive (.attempt m.before.attempts) = true := by
      rw [Loop.isLive, created]
      rfl
    exact ⟨⟨inv.isLive_attempt_eq_false (Nat.le_refl _), live⟩,
      reckoned.latest_of_expired follows expired due⟩
  | opens begins ready quiet opened failures up gone =>
    exact reckoned.opened inv begins ready quiet failures up gone
  | readies other quiet same ready failures before up =>
    refine reckoned.quiet quiet same (fun n here => .inl (ready n here)) fun _ => ?_
    have renews : m.renews (cfg.following p) = true := by
      rw [Moment.renews, up]
      simp [before]
    rw [failures, untimed_concat, retriesSince_concat, renews]
    rfl

/-- A callback that sets a timer is a start, or schedules a retry after the wait of its place. -/
theorem of_times (reckoned : Reckoned p (cfg.following p) past m.before)
    (inv : Inv (cfg.following p) alone vouch none m.before)
    (lawful : Lawful m.env m.event) (times : m.times (cfg.following p) = true) :
    m.starts = true ∨ ∃ r, (m.beat (cfg.following p)).Sets (.retry r)
      (.delay (p.delay (retriesSince (cfg.following p) (untimed past)))) := by
  have noisy (quiet : m.before.Quiet (m.after (cfg.following p))) : False :=
    nomatch (Moment.times_of_quiet quiet).symm.trans times
  have pace : Pace (cfg.following p) m.before m.event (m.after (cfg.following p)) :=
    .step inv lawful
  cases pace with
  | paces paces =>
    cases paces with
    | calm calm => exact (noisy calm.toQuiet).elim
    | @retries wait goesOn known counted retimes =>
      obtain rfl : p.delay m.before.failures = wait := Except.ok.inj known
      rw [← reckoned.counted goesOn]
      exact .inr ⟨_, m.sets reckoned.numbered retimes⟩
  | starts started stopped => exact .inl (by rw [Moment.starts, started, stopped]; rfl)
  | creates _ _ quiet => exact (noisy quiet).elim
  | opens _ _ quiet => exact (noisy quiet).elim
  | readies _ quiet => exact (noisy quiet).elim

/-- A callback that opens a session sets no timer, and the wait of the latest timer is over. -/
theorem of_opens (reckoned : Reckoned p (cfg.following p) past m.before)
    (inv : Inv (cfg.following p) alone vouch none m.before)
    (lawful : Lawful m.env m.event)
    (follows : ∀ a ∈ past, (a.beat (cfg.following p)).Follows (m.beat (cfg.following p)))
    (opens : m.opens (cfg.following p) = true) :
    m.times (cfg.following p) = false ∧ Due.Latest p (cfg.following p) past m.time := by
  have grown : m.before.sessions.length < (m.after (cfg.following p)).sessions.length := by
    simpa [Moment.opens] using opens
  have pace : Pace (cfg.following p) m.before m.event (m.after (cfg.following p)) :=
    .step inv lawful
  cases pace with
  | opens _ ready quiet =>
    exact ⟨Moment.times_of_quiet quiet, reckoned.latest_of_ready follows ready⟩
  | paces paces =>
    cases paces with
    | calm calm => exact absurd calm.sessions (Nat.ne_of_gt grown)
    | retries _ _ _ retimes => exact absurd retimes.sessions (Nat.ne_of_gt grown)
  | starts _ _ _ retimes => exact absurd retimes.sessions (Nat.ne_of_gt grown)
  | creates _ _ _ same => exact absurd same (Nat.ne_of_gt grown)
  | readies _ _ same => exact absurd same (Nat.ne_of_gt grown)

/-- A timer that is live, or an attempt that has not begun, is as late as the latest timer
allows. -/
theorem le_of_pending (reckoned : Reckoned p cfg past m.before)
    (follows : ∀ a ∈ past, (a.beat cfg).Follows (m.beat cfg))
    (pending : (∃ r, m.before.Due r) ∨ ∃ n, m.before.Ready n) :
    ∃ time, Due.Latest p cfg past time ∧ m.time ≤ time := by
  rcases pending with ⟨r, due⟩ | ⟨n, ready⟩
  · obtain ⟨e, mem, wait, sets, latest⟩ := reckoned.due r due
    exact ⟨_, latest, (follows e mem).notLate _ _ sets due⟩
  · exact ⟨m.time, reckoned.latest_of_ready follows ready, le_refl _⟩

end Reckoned

/-- Throughout a punctual run the state agrees with the history. -/
theorem Run.reckoned (run : Run (cfg.following p) (untimed past) s)
    (obedient : ∀ m ∈ untimed past, m.Obedient)
    (punctual : Punctual (past.map (·.beat (cfg.following p)))) :
    Reckoned p (cfg.following p) past s := by
  induction past using List.reverseRecOn generalizing s with
  | nil =>
    rw [run.of_nil]
    exact .fresh
  | append_singleton past m ih =>
    rw [untimed_concat] at run obedient
    rw [List.map_append, List.map_singleton, Link.punctual_concat, List.forall_mem_map] at punctual
    obtain ⟨before, lawful, rfl⟩ := run.of_concat
    have earlier := (List.forall_mem_append.mp obedient).1
    exact (ih before earlier punctual.1).step (before.inv earlier) lawful (run.inv obedient)
      punctual.2

end Supervisor

end SensorLink
