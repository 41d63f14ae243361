/-
# The pace of the attempts

How long the supervisor waits before an attempt depends on the outage only: the wait
grows with every retry since the supervisor was started or the connection was ready, up
to a greatest one.  Every session is opened exactly when the wait of the latest timer
is over.  So the sessions of one outage are never closer than the first wait, and every
outage begins with it anew.
-/

import SensorLink.Proofs.Supervisor.Persistence
import SensorLink.Proofs.Supervisor.Reckoning

namespace SensorLink

open Link (Punctual Settings Surroundings)
open Retry (Progression)

namespace Supervisor

/-- What holds of the attempts of a history. -/
structure Paced (p : Progression) (cfg : Settings ℚ) (past : List (Stamped ℚ)) : Prop where
  /-- Every retry waits for the delay of its place in the outage. -/
  waits : ∀ before m after, past = before ++ m :: after → m.retries cfg = true →
    ∃ r, (m.beat cfg).Sets (.retry r) (.delay (p.delay (retriesSince cfg (untimed before))))
  /-- Every session is opened exactly when the wait of the latest timer is over, and is the only
  one that is opened for it. -/
  opened : ∀ before m after, past = before ++ m :: after → m.opens cfg = true →
    Due.Latest p cfg before m.time
  /-- A supervisor that goes on is disconnected no longer than that, as long as nobody starts it
  while a shutdown is pending. -/
  prompt : (∀ m ∈ past, m.before.Patient m.event) → ∀ before m after,
    past = before ++ m :: after → m.before.stopped = false →
    m.before.machine.state = .disconnected →
    ∃ time, Due.Latest p cfg before time ∧ m.time ≤ time
  /-- Within an outage the waits never decrease. -/
  rises : ∀ before m between m' after, past = before ++ m :: between ++ m' :: after →
    m.retries cfg = true → m'.retries cfg = true →
    (∀ b ∈ m :: between, b.renews cfg = false) →
    p.delay (retriesSince cfg (untimed before)) ≤
      p.delay (retriesSince cfg (untimed (before ++ m :: between)))
  /-- Without a start between them, two sessions are at least the initial delay apart. -/
  apart : ∀ before m between m' after, past = before ++ m :: between ++ m' :: after →
    m.opens cfg = true → m'.opens cfg = true → (∀ b ∈ between, b.starts = false) →
    m.time + p.initial ≤ m'.time
  /-- If the delays do not grow, every retry waits for the same time. -/
  steady : p.greatest = p.initial → ∀ before m after, past = before ++ m :: after →
    m.retries cfg = true → ∃ r, (m.beat cfg).Sets (.retry r) (.delay p.initial)
  /-- The first retry after a start, or after the connection was ready, waits for the initial
  delay. -/
  afresh : ∀ before m between m' after, past = before ++ m :: between ++ m' :: after →
    m.renews cfg = true → m'.retries cfg = true →
    (∀ b ∈ between, b.renews cfg = false ∧ b.retries cfg = false) →
    ∃ r, (m'.beat cfg).Sets (.retry r) (.delay p.initial)
  /-- A start of a supervisor that is running does nothing. -/
  running : ∀ m ∈ past, m.event = .started → m.before.stopped = false → m.after cfg = m.before

variable {p : Progression} {cfg : Settings ℚ} {past before between after : List (Stamped ℚ)}
  {m m' : Stamped ℚ} {s : Supervisor ℚ}

/-- A callback of a history is met by what is known before it. -/
structure Met (p : Progression) (cfg : Settings ℚ) (before : List (Stamped ℚ)) (m : Stamped ℚ) :
    Prop where
  run : Run (cfg.following p) (untimed before) m.before
  obedient : ∀ b ∈ untimed before, b.Obedient
  lawful : Lawful m.env m.event
  reckoned : Reckoned p (cfg.following p) before m.before
  follows : ∀ a ∈ before, (a.beat (cfg.following p)).Follows (m.beat (cfg.following p))

theorem Run.met (run : Run (cfg.following p) (untimed past) s)
    (obedient : ∀ m ∈ untimed past, m.Obedient)
    (punctual : Punctual (past.map (·.beat (cfg.following p))))
    (split : past = before ++ m :: after) : Met p cfg before m := by
  subst split
  simp only [untimed_append, untimed_cons] at run obedient
  rw [List.append_cons, List.map_append, List.map_append, List.map_singleton] at punctual
  obtain ⟨ordered, follows⟩ := Link.punctual_concat.mp (List.pairwise_append.mp punctual).1
  obtain ⟨run, lawful⟩ := run.of_append_cons
  have earlier := (List.forall_mem_append.mp obedient).1
  exact ⟨run, earlier, lawful, run.reckoned earlier ordered, List.forall_mem_map.mp follows⟩

namespace Met

theorem waits (met : Met p cfg before m) (retries : m.retries (cfg.following p) = true) :
    ∃ r, (m.beat (cfg.following p)).Sets (.retry r)
      (.delay (p.delay (retriesSince (cfg.following p) (untimed before)))) := by
  rw [Moment.retries, Bool.and_eq_true] at retries
  rcases met.reckoned.of_times (met.run.inv met.obedient) met.lawful retries.1 with starts | sets
  · rw [Moment.starts, Bool.and_eq_true] at starts
    simp [starts.1] at retries
  · exact sets

theorem opened (met : Met p cfg before m) (opens : m.opens (cfg.following p) = true) :
    m.times (cfg.following p) = false ∧ Due.Latest p (cfg.following p) before m.time :=
  met.reckoned.of_opens (met.run.inv met.obedient) met.lawful met.follows opens

theorem prompt (met : Met p cfg before m)
    (patient : ∀ m ∈ untimed before, m.before.Patient m.event) (goesOn : m.before.stopped = false)
    (disconnected : m.before.machine.state = .disconnected) :
    ∃ time, Due.Latest p (cfg.following p) before time ∧ m.time ≤ time := by
  have unlimited : (cfg.following p).Unlimited := fun failures => ⟨_, rfl⟩
  have persists := met.run.persists met.obedient unlimited patient
  exact met.reckoned.le_of_pending met.follows (persists goesOn disconnected)

/-- The timer for which a session is opened was set after the session before it. -/
theorem mem_between (met : Met p cfg before m) (opens : m.opens (cfg.following p) = true)
    {between earlier later : List (Stamped ℚ)} {e : Stamped ℚ}
    (split : before ++ m :: between = earlier ++ e :: later)
    (times : e.times (cfg.following p) = true)
    (idle : ∀ b ∈ later, b.times (cfg.following p) = false ∧ b.opens (cfg.following p) = false) :
    e ∈ between := by
  rcases Link.places_cases split with mem | late | ⟨-, rfl, -⟩
  · exact mem
  · exact nomatch (idle m late).2.symm.trans opens
  · exact nomatch (met.opened opens).1.symm.trans times

end Met

/-- A start of a supervisor that is running does nothing. -/
theorem Moment.after_of_running {δ : Type} {cfg : Settings δ} {m : Moment δ}
    (started : m.event = .started) (running : m.before.stopped = false) :
    m.after cfg = m.before := by
  rw [Moment.after, started, Supervisor.step, start, running]
  rfl

/-- A timer that is set without a start waits for the initial delay at least. -/
theorem initial_le_waitAfter {earlier : List (Stamped ℚ)} {e : Stamped ℚ}
    (times : e.times cfg = true) (unstarted : e.starts = false) :
    p.initial ≤ waitAfter p cfg earlier e := by
  have retries : e.event ≠ .started := by
    intro started
    obtain ⟨r, live, absent⟩ := Moment.times_eq_true_iff.mp times
    have running : e.before.stopped = false := by
      simpa [Moment.starts, started, Event.isStart] using unstarted
    rw [Moment.after_of_running started running] at live
    exact absent live
  rw [waitAfter, Moment.isStart_eq_false retries]
  exact p.initial_le_delay _

/-- **The pace of the attempts**, in every punctual run of a supervisor whose delays are those
of a progression, if no cancelled attempt fails after its successor was created. -/
theorem Run.paced (run : Run (cfg.following p) (untimed past) s)
    (obedient : ∀ m ∈ untimed past, m.Obedient)
    (punctual : Punctual (past.map (·.beat (cfg.following p)))) :
    Paced p (cfg.following p) past where
  waits before m after split retries := (run.met obedient punctual split).waits retries
  opened before m after split opens := ((run.met obedient punctual split).opened opens).2
  prompt patient before m after split goesOn disconnected := by
    subst split
    rw [List.forall_mem_append] at patient
    have earlier : ∀ m ∈ untimed before, m.before.Patient m.event :=
      forall_mem_untimed.mpr patient.1
    exact (run.met obedient punctual rfl).prompt earlier goesOn disconnected
  rises before m between m' after split retries retries' ongoing := by
    rw [untimed_append, retriesSince_append (forall_mem_untimed.mpr ongoing)]
    exact p.delay_mono (Nat.le_add_right _ _)
  apart before m between m' after split opens opens' unstarted := by
    have split' : past = before ++ m :: (between ++ m' :: after) := by simp [split]
    have met := run.met obedient punctual split'
    obtain ⟨earlier, e, later, same, times, idle, exact⟩ :=
      ((run.met obedient punctual split).opened opens').2
    have mem : e ∈ between := met.mem_between opens same times idle
    have ordered : m.time ≤ e.time := by
      rw [split', List.map_append, List.map_cons] at punctual
      have follows := (List.pairwise_cons.mp (List.pairwise_append.mp punctual).2.1).1
      exact (follows (e.beat _) (List.mem_map_of_mem (by simp [mem]))).ordered
    calc m.time + p.initial ≤ e.time + waitAfter p (cfg.following p) earlier e :=
          add_le_add ordered (initial_le_waitAfter times (unstarted e mem))
      _ = m'.time := exact.symm
  steady fixed before m after split retries := by
    rw [← p.delay_of_fixed fixed]
    exact (run.met obedient punctual split).waits retries
  afresh before m between m' after split renews retries idle := by
    have fresh : retriesSince (cfg.following p) (untimed (before ++ m :: between)) = 0 := by
      rw [List.append_cons, untimed_append, retriesSince_append, untimed_concat,
        retriesSince_concat, renews]
      · simpa using forall_mem_untimed.mpr fun b mem => (idle b mem).2
      · exact forall_mem_untimed.mpr fun b mem => (idle b mem).1
    have waits := (run.met obedient punctual split).waits retries
    rwa [fresh, p.delay_zero] at waits
  running m _ started goesOn := Moment.after_of_running started goesOn

/-- The callbacks of timed events that all meet the same surroundings. -/
def stamps {δ : Type} (cfg : Settings δ) (env : Surroundings) (s : Supervisor δ) :
    List (δ × Event) → List (Stamped δ)
  | [] => []
  | (time, event) :: rest => ⟨⟨s, env, event⟩, time⟩ :: stamps cfg env (s.step cfg env event) rest

theorem untimed_stamps {δ : Type} (cfg : Settings δ) (env : Surroundings) (s : Supervisor δ)
    (events : List (δ × Event)) :
    untimed (stamps cfg env s events) = moments cfg env s (events.map (·.2)) := by
  induction events generalizing s with
  | nil => rfl
  | cons first rest ih => exact congrArg (⟨s, env, first.2⟩ :: ·) (ih _)

/-- Settings for timed runs by hand, with delays that double from one to three. -/
def doubling : Progression where
  initial := 1
  greatest := 3
  backoff := 2
  positive := by norm_num
  initial_le_greatest := by norm_num
  one_le_backoff := by norm_num

def doublingSettings : Settings ℚ :=
  Settings.following
    { plainSettings with
      mode := .ok .notify
      limits := ⟨some 20, some 10, some 10, some 5⟩
      discoveryLimit := none
      retryDelay := fun _ => .ok 0
      atOnce := 0
      showDelay := fun _ => "" } doubling

/-- Surroundings for timed runs by hand in which every link has dropped when it should be up. -/
def deadWorld : Surroundings :=
  { plainWorld with link := fun _ => .reported false }

/-- The peripheral is out of reach. -/
def outOfReach : List (Stamped ℚ) :=
  stamps doublingSettings deadWorld .fresh
    [(0, .started), (0, .expired (.retry 0)), (0, .begins (.attempt 0)),
      (5, .resumed (.attempt 0) (.returned [])), (6, .expired (.retry 1)),
      (6, .begins (.attempt 1)), (7, .resumed (.attempt 1) (.returned [])),
      (9, .expired (.retry 2)), (9, .begins (.attempt 2))]

/-- Three sessions are opened: at once, one after the first failure, and two after the second. -/
theorem paced_outOfReach :
    Punctual (outOfReach.map (·.beat doublingSettings)) ∧
      (outOfReach.filter (·.opens doublingSettings)).map (·.time) = [0, 6, 9] ∧
      Paced doubling doublingSettings outOfReach := by
  have punctual : Punctual (outOfReach.map (·.beat doublingSettings)) := by decide +kernel
  obtain ⟨s, run, obedient⟩ : ∃ s, Run doublingSettings (untimed outOfReach) s ∧
      ∀ m ∈ untimed outOfReach, m.Obedient := by
    rw [outOfReach, untimed_stamps]
    exact ⟨_, run_play (fun _ _ => rfl) rfl, obedient_moments rfl⟩
  exact ⟨punctual, by decide +kernel, run.paced obedient punctual⟩

/-- A shutdown cancels the first attempt while it connects, and the supervisor is started again.
The first attempt fails when the timer of the start has gone off, and before the attempt that it
created has begun. -/
def displaced : List (Stamped ℚ) :=
  stamps doublingSettings deadWorld .fresh
    [(0, .started), (0, .expired (.retry 0)), (0, .begins (.attempt 0)), (5, .shutdownAsked),
      (5, .begins (.shutdown 0)), (5, .started), (5, .expired (.retry 1)),
      (5, .resumed (.attempt 0) (.raised belated)), (5, .begins (.attempt 1)),
      (6, .expired (.retry 2))]

/-- The supervisor when its shutdown has ended. -/
def dismissed : Supervisor ℚ :=
  play doublingSettings deadWorld .fresh [.started, .expired (.retry 0), .begins (.attempt 0),
    .shutdownAsked, .begins (.shutdown 0)]

/-- The shutdown has ended when the supervisor is started again. -/
theorem displaced_patient : ∀ m ∈ displaced, m.before.Patient m.event := by
  have tasks : dismissed.loop.tasks = [(.attempt 0, .connecting 1 0)] := by decide +kernel
  have ended (n : Nat) : ¬dismissed.loop.isLive (.shutdown n) = true := by
    rw [Link.Loop.isLive, Link.Loop.point?, tasks]
    exact Bool.false_ne_true
  simp only [displaced, stamps, List.forall_mem_cons, Patient, reduceCtorEq, false_implies,
    true_and, true_implies]
  exact ⟨fun _ => Bool.false_ne_true, ended, List.forall_mem_nil _⟩

/-- A retry is scheduled at the time of the late failure, and a session is opened before its wait
is over, and none when it is. -/
theorem not_paced_displaced :
    Punctual (displaced.map (·.beat doublingSettings)) ∧
      (∃ s, Run doublingSettings (untimed displaced) s) ∧
      (∀ m ∈ displaced, m.before.Patient m.event) ∧
      (displaced.filter (·.retries doublingSettings)).map (·.time) = [5] ∧
      (displaced.filter (·.opens doublingSettings)).map (·.time) = [0, 5] ∧
      ¬Paced doubling doublingSettings displaced := by
  refine ⟨by decide +kernel, ?_, displaced_patient, by decide +kernel, by decide +kernel,
    fun paced => ?_⟩
  · rw [displaced, untimed_stamps]
    exact ⟨_, run_play (fun _ _ => rfl) rfl⟩
  · have latest := paced.opened [_, _, _, _, _, _, _, _] _ [_] rfl (by decide +kernel)
    have due := Due.Latest.eq_of_times [_, _, _, _, _, _, _] latest (by decide +kernel)
    revert due
    decide +kernel

end Supervisor

end SensorLink
