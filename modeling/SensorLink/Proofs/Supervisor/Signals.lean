/-
# Signals of the end of a connection

The end of a connection is reported by its client, any number of times and as
late as the loop gets to it, and by the end of a forced disconnect.  A signal
that finds the connection up tears it down and sets the timer of the next
attempt; every other signal changes nothing.  There are two exceptions.  A call
that fails in a way that a forced disconnect is not prepared for is the end of
the task and of nothing else; and no retry is set where there is no delay to wait.
-/

import SensorLink.Proofs.Supervisor.Likeness
import SensorLink.Proofs.Supervisor.Watch

namespace SensorLink

open Gatt (Ending)
open Link (Effect Loop Notice Point Settings Surroundings TaskId TimerId)
open Sensor (Kind)

/-- The call that a task waits for ends in a way that one who closes a session is not prepared
for. -/
def Event.Aborts {δ : Type} (event : Event) (cfg : Settings δ) : Prop :=
  ∃ task ending, event = .resumed task ending ∧
    ending.Escapes .disconnect (cfg.limitText .disconnect)

/-- Loops that are alike told the listeners the same. -/
theorem Link.Loop.Alike.notices {δ : Type} {l l' : Loop δ} (alike : l.Alike l') :
    l'.notices = l.notices := by
  have kept (l : Loop δ) : l.notices = l.acts.filterMap Effect.notice? := by
    rw [Loop.notices, Loop.acts, List.filterMap_filter]
    congr 1
    funext e
    cases e <;> rfl
  rw [kept, kept, alike.acts]

namespace Supervisor

variable {δ : Type}

/-- The forced disconnect of an attempt comes to its end, the generation being the one that it
closes.  It finds no session or one without a client, or its call has ended. -/
inductive Ends (s : Supervisor δ) (n g : Nat) : Event → Prop where
  | absent :
    s.loop.point? (.forcedDisconnect n) = some (.forcedStart none g) →
    Ends s n g (.begins (.forcedDisconnect n))
  | released {x : Nat} :
    s.loop.point? (.forcedDisconnect n) = some (.forcedStart (some x) g) →
    s.isReleased x = true → Ends s n g (.begins (.forcedDisconnect n))
  | closed {ending : Ending} :
    s.loop.point? (.forcedDisconnect n) = some (.forcedClosing g) →
    Ends s n g (.resumed (.forcedDisconnect n) ending)

/-- An event signals the end of the connection of a generation. -/
def Signals (s : Supervisor δ) (g : Nat) (event : Event) : Prop :=
  event = .linkLost g ∨ ∃ n, s.Ends n g event

/-- Nothing changes but tasks and reports. -/
def Ignores (s s' : Supervisor δ) : Prop :=
  ∃ loop, s' = { s with loop } ∧ loop.timers = s.loop.timers ∧ loop.notices = s.loop.notices

/-- One teardown happened, and nothing else but that a retry may have been set. -/
def TornOnce (s s' : Supervisor δ) : Prop :=
  ∃ failures retryTimer retries loop,
    s' = { s.torn with failures, retryTimer, retries, loop } ∧
    loop.notices = s.loop.notices ++ s.partingNotices

/-- One failure was counted and one timer set, and no other attempt is due. -/
structure Retried (s s' : Supervisor δ) : Prop where
  failures : s'.failures = s.failures + 1
  retries : s'.retries = s.retries + 1
  retryTimer : s'.retryTimer = some (.retry s.retries)
  due : ∀ r, .retry r ∈ s'.loop.timers ↔ r = s.retries

/-- What a signal of the end of a connection is to do. -/
structure Answers (s : Supervisor δ) (g : Nat) (s' : Supervisor δ) : Prop where
  torn : s.Up g → s.TornOnce s'
  retried : s.Up g → s.stopped = false → s.Retried s'
  stopped : s.Up g → s.stopped = true → ∀ r, .retry r ∉ s'.loop.timers
  ignored : ¬s.Up g → s.Ignores s'

variable {cfg : Settings δ} {env : Surroundings} {s s' s'' : Supervisor δ} {event : Event}
  {n g : Nat}

namespace Ignores

theorem refl (s : Supervisor δ) : s.Ignores s :=
  ⟨s.loop, rfl, rfl, rfl⟩

theorem trans (first : s.Ignores s') (second : s'.Ignores s'') : s.Ignores s'' := by
  obtain ⟨loop, rfl, timers, notices⟩ := first
  obtain ⟨loop', rfl, timers', notices'⟩ := second
  exact ⟨loop', rfl, timers'.trans timers, notices'.trans notices⟩

theorem symm (ignores : s.Ignores s') : s'.Ignores s := by
  obtain ⟨loop, rfl, timers, notices⟩ := ignores
  exact ⟨s.loop, rfl, timers.symm, notices.symm⟩

theorem of_alike (alike : s.Alike s') : s.Ignores s' := by
  obtain ⟨loop, alike, rfl⟩ := alike
  exact ⟨loop, rfl, alike.timers, alike.notices⟩

theorem finish (s : Supervisor δ) (task : TaskId) (how : Link.Finish) :
    s.Ignores (s.finish task how) :=
  ⟨_, rfl, rfl, Loop.notices_of_tape (Loop.tape_finish s.loop task how) rfl⟩

theorem machine (ignores : s.Ignores s') : s'.machine = s.machine := by
  obtain ⟨loop, rfl, -⟩ := ignores
  rfl

theorem stopped (ignores : s.Ignores s') : s'.stopped = s.stopped := by
  obtain ⟨loop, rfl, -⟩ := ignores
  rfl

theorem up_iff (ignores : s.Ignores s') : s'.Up g ↔ s.Up g := by
  rw [Up, Up, ignores.machine]

end Ignores

theorem TornOnce.machine (torn : s.TornOnce s') : s'.machine = s.machine.dropped := by
  obtain ⟨_, _, _, _, rfl, -⟩ := torn
  rfl

/-- Ignoring something before and after a teardown is no second teardown. -/
theorem TornOnce.around {t t' : Supervisor δ} (before : s.Ignores t) (after : t'.Ignores s')
    (torn : t.TornOnce t') : s.TornOnce s' := by
  obtain ⟨_, rfl, -, notices⟩ := before
  obtain ⟨failures, retryTimer, retries, _, rfl, told⟩ := torn
  obtain ⟨loop, rfl, -, notices'⟩ := after
  refine ⟨failures, retryTimer, retries, loop, rfl, ?_⟩
  rw [notices', told, notices]
  rfl

theorem Retried.around {t t' : Supervisor δ} (before : s.Ignores t) (after : t'.Ignores s')
    (retried : t.Retried t') : s.Retried s' := by
  obtain ⟨_, rfl, -, -⟩ := before
  obtain ⟨loop, rfl, timers, -⟩ := after
  exact { retried with due := fun r => by rw [timers]; exact retried.due r }

theorem Answers.around {t t' : Supervisor δ} (before : s.Ignores t) (after : t'.Ignores s')
    (answers : t.Answers g t') : s.Answers g s' where
  torn up := (answers.torn (before.up_iff.mpr up)).around before after
  retried up goesOn :=
    (answers.retried (before.up_iff.mpr up) (before.stopped.trans goesOn)).around before after
  stopped up stopped r live := by
    obtain ⟨_, rfl, timers, -⟩ := after
    exact answers.stopped (before.up_iff.mpr up) (before.stopped.trans stopped) r (timers ▸ live)
  ignored down :=
    (before.trans (answers.ignored fun up => down (before.up_iff.mp up))).trans after

/-- A signal that finds the connection down is to be ignored, and no more. -/
theorem Ignores.answers (ignores : s.Ignores s') (down : ¬s.Up g) : s.Answers g s' where
  torn up := absurd up down
  retried up := absurd up down
  stopped up := absurd up down
  ignored _ := ignores

/-- The end of a connection that is up tears it down, and schedules a retry. -/
theorem connectionLost_of_up (up : s.Up g) (cfg : Settings δ) (env : Surroundings) :
    ∃ loop, s.loop.Wanes s.partingNotices loop ∧
      (s.connectionLost cfg env g).1 = (scheduleRetry { s.torn with loop } cfg).1 := by
  obtain ⟨rfl, up⟩ := up
  obtain ⟨loop, keeps, said⟩ :=
    Journals.say s cfg .warning ("Disconnected from " ++ cfg.address)
  obtain ⟨loop', wanes, torn⟩ := teardown_eq { s with loop } cfg env
  have lost : s.connectionLost cfg env s.machine.generation =
      ((s.say cfg .warning ("Disconnected from " ++ cfg.address)).teardown cfg env).scheduleRetry
        cfg := by
    rw [connectionLost, Connection.Machine.isCurrent_natCast, if_pos (beq_self_eq_true _)]
    rcases up with up | up <;> simp only [up]
  refine ⟨loop', wanes.before keeps.wanes, ?_⟩
  rw [lost, said, torn]
  rfl

/-- The end of any other connection is noted at most. -/
theorem connectionLost_of_not_up (down : ¬s.Up g) (cfg : Settings δ) (env : Surroundings) :
    ∃ t, s.Alike t ∧ s.connectionLost cfg env g = (t, none) := by
  rw [connectionLost, Connection.Machine.isCurrent_natCast]
  split
  · rename_i current
    have same : g = s.machine.generation := by simpa using current
    cases known : s.machine.state with
    | connecting => exact ⟨_, .recorded s cfg _, rfl⟩
    | disconnected => exact ⟨s, .refl s, rfl⟩
    | discovering => exact absurd ⟨same, .inl known⟩ down
    | ready => exact absurd ⟨same, .inr known⟩ down
  · exact ⟨_, .recorded s cfg _, rfl⟩

/-- A task that begins aborts no call. -/
theorem not_aborts_begins (task : TaskId) : ¬Event.Aborts (.begins task) cfg :=
  fun ⟨_, _, resumed, _⟩ => nomatch resumed

theorem aborts_resumed_iff (task : TaskId) (ending : Ending) :
    Event.Aborts (.resumed task ending) cfg ↔
      ending.Escapes .disconnect (cfg.limitText .disconnect) := by
  constructor
  · rintro ⟨_, _, ⟨⟩, escapes⟩
    exact escapes
  · exact fun escapes => ⟨task, ending, rfl, escapes⟩

/-- A failure of the transport to close the session is noted, and the disconnect ends. -/
theorem forcedFailed_of_transport {f : Failure} (expected : f.isTransport = true) (s : Supervisor δ)
    (cfg : Settings δ) (env : Surroundings) (n g : Nat) : ∃ t, s.Journals t ∧ s.Alike t ∧
      s.forcedFailed cfg env n g f = t.finishForced cfg env n g :=
  ⟨_, .say s cfg .debug ("Disconnect after discovery timeout failed: " ++ f.message),
    .recorded s cfg _, if_pos expected⟩

/-- A forced disconnect that ends reports the end of the connection, unless its call aborts. -/
theorem step_of_ends (ends : s.Ends n g event) (cfg : Settings δ) (env : Surroundings) :
    ¬event.Aborts cfg ∧ (∃ t, s.Journals t ∧ s.Alike t ∧
        s.step cfg env event = t.finishForced cfg env n g) ∨
      event.Aborts cfg ∧ ∃ how, s.step cfg env event = s.finish (.forcedDisconnect n) how := by
  cases ends with
  | absent here =>
    refine .inl ⟨not_aborts_begins _, s, .refl s, .refl s, ?_⟩
    rw [step_begins here]
    rfl
  | released here released =>
    obtain ⟨t, journals, alike, failed⟩ := forcedFailed_of_transport
      (f := .noClient Gatt.Call.disconnect.label) rfl s cfg env n g
    refine .inl ⟨not_aborts_begins _, t, journals, alike, ?_⟩
    rw [step_begins here]
    exact (if_pos released).trans failed
  | @closed ending here =>
    rw [aborts_resumed_iff, step_resumed here]
    show _ ∧ (∃ t, _ ∧ _ ∧ s.resumeForced cfg env n g ending = _) ∨
      _ ∧ ∃ how, s.resumeForced cfg env n g ending = _
    rw [resumeForced]
    cases seen : ending.result? .disconnect (cfg.limitText .disconnect) with
    | none => exact .inr ⟨Ending.escapes_of_none seen, .cancelled, rfl⟩
    | some result =>
      cases result with
      | ok payload => exact .inl ⟨Ending.not_escapes_of_ok seen, s, .refl s, .refl s, rfl⟩
      | error f =>
        rw [Ending.escapes_iff_of_error seen]
        cases expected : f.isTransport with
        | true =>
          exact .inl ⟨Bool.noConfusion, forcedFailed_of_transport expected s cfg env n g⟩
        | false => exact .inr ⟨rfl, .failed f, if_neg (by simp [expected])⟩

/-- The callback of a signal reports the end of the connection, unless a call aborts. -/
theorem step_of_signals (signals : s.Signals g event) (cfg : Settings δ) (env : Surroundings) :
    ¬event.Aborts cfg ∧ (∃ t, s.Ignores t ∧
        (t.connectionLost cfg env g).1.Ignores (s.step cfg env event)) ∨
      event.Aborts cfg ∧ s.Ignores (s.step cfg env event) := by
  rcases signals with rfl | ⟨n, ends⟩
  · refine .inl ⟨fun ⟨_, _, resumed, _⟩ => (nomatch resumed), s, .refl s, ?_⟩
    show (s.connectionLost cfg env g).1.Ignores (Supervisor.report (s.connectionLost cfg env g))
    rw [Supervisor.report]
    split
    · exact .of_alike ⟨_, .report _ rfl, rfl⟩
    · exact .refl _
  · rcases step_of_ends ends cfg env with ⟨whole, t, -, alike, ended⟩ | ⟨aborts, how, ended⟩
    · rw [ended]
      exact .inl ⟨whole, t, .of_alike alike, .finish _ _ _⟩
    · rw [ended]
      exact .inr ⟨aborts, .finish s _ how⟩

theorem notices_scheduleConnect (s : Supervisor δ) (delay : δ) :
    (s.scheduleConnect delay).loop.notices = s.loop.notices := by
  cases stopped : s.stopped with
  | true => rw [scheduleConnect_of_stopped stopped]
  | false =>
    rw [scheduleConnect_eq stopped]
    exact Loop.notices_replace s.loop _ _ _

/-- Without a delay to wait no retry is scheduled. -/
theorem scheduleRetry_of_error {f : Failure} (unknown : cfg.retryDelay s.failures = .error f) :
    s.scheduleRetry cfg = (s, some f) := by
  rw [scheduleRetry, unknown]

/-- With a delay to wait a failure is counted and the timer set. -/
theorem scheduleRetry_of_ok {delay : δ} (known : cfg.retryDelay s.failures = .ok delay) :
    ∃ loop, loop.timers = s.loop.timers ∧ loop.notices = s.loop.notices ∧
      (s.scheduleRetry cfg).1 =
        scheduleConnect { s with failures := s.failures + 1, loop } delay := by
  obtain ⟨loop, alike, said⟩ := Alike.recorded { s with failures := s.failures + 1 } cfg
    (Journal.note .info ("Reconnecting to " ++ cfg.address ++ " in " ++ cfg.showDelay delay ++ "s"))
  refine ⟨loop, alike.timers, alike.notices, ?_⟩
  rw [scheduleRetry, known]
  exact congrArg (scheduleConnect · delay) said

theorem notices_scheduleRetry (s : Supervisor δ) (cfg : Settings δ) :
    (s.scheduleRetry cfg).1.loop.notices = s.loop.notices := by
  cases known : cfg.retryDelay s.failures with
  | error f => rw [scheduleRetry_of_error known]
  | ok delay =>
    obtain ⟨loop, -, notices, scheduled⟩ := scheduleRetry_of_ok known
    rw [scheduled, notices_scheduleConnect]
    exact notices

/-- A connection that is up is torn down once. -/
theorem tornOnce_connectionLost (up : s.Up g) (cfg : Settings δ) (env : Surroundings) :
    s.TornOnce (s.connectionLost cfg env g).1 := by
  obtain ⟨loop, wanes, lost⟩ := connectionLost_of_up up cfg env
  obtain ⟨failures, retryTimer, retries, loop', scheduled, -⟩ :=
    scheduleRetry_eq { s.torn with loop } cfg
  have told := notices_scheduleRetry { s.torn with loop } cfg
  rw [scheduled] at told
  rw [lost, scheduled]
  exact ⟨failures, retryTimer, retries, loop', rfl, told.trans wanes.notices⟩

/-- A supervisor that goes on sets one timer, in place of any other. -/
theorem retried_scheduleRetry (goesOn : s.stopped = false) {delay : δ}
    (known : cfg.retryDelay s.failures = .ok delay)
    (retry : ∀ r, .retry r ∈ s.loop.timers → s.retryTimer = some (.retry r)) :
    s.Retried (s.scheduleRetry cfg).1 := by
  obtain ⟨loop, timers, -, scheduled⟩ := scheduleRetry_of_ok known
  rw [scheduled, scheduleConnect_eq (by exact goesOn)]
  refine ⟨rfl, rfl, rfl, fun r => ?_⟩
  rw [Loop.mem_timers_replace, timers]
  constructor
  · rintro (same | ⟨live, gone⟩)
    · exact TimerId.retry.inj same
    · exact absurd (retry r live) gone
  · rintro rfl
    exact .inl rfl

/-- A supervisor that is stopped sets none. -/
theorem timers_scheduleRetry_of_stopped (stopped : s.stopped = true) (cfg : Settings δ) :
    (s.scheduleRetry cfg).1.loop.timers = s.loop.timers := by
  cases known : cfg.retryDelay s.failures with
  | error f => rw [scheduleRetry_of_error known]
  | ok delay =>
    obtain ⟨loop, timers, -, scheduled⟩ := scheduleRetry_of_ok known
    rw [scheduled, scheduleConnect_of_stopped (by exact stopped)]
    exact timers

/-- The only thing that keeps a connection that is up and lost from a retry, in a supervisor that
goes on, is that there is no delay to wait. -/
theorem retried_connectionLost_iff (up : s.Up g) (goesOn : s.stopped = false)
    (retry : ∀ r, .retry r ∈ s.loop.timers → s.retryTimer = some (.retry r)) (cfg : Settings δ)
    (env : Surroundings) : s.Retried (s.connectionLost cfg env g).1 ↔
      ¬∃ f, cfg.retryDelay s.failures = .error f := by
  obtain ⟨loop, wanes, lost⟩ := connectionLost_of_up up cfg env
  rw [lost]
  cases known : cfg.retryDelay s.failures with
  | error f =>
    rw [scheduleRetry_of_error (by exact known)]
    refine iff_of_false (fun retried => ?_) fun absent => absent ⟨f, rfl⟩
    exact absurd retried.retries (Nat.succ_ne_self s.retries).symm
  | ok delay =>
    refine iff_of_true ?_ nofun
    have retried := retried_scheduleRetry (s := { s.torn with loop }) goesOn known fun r live =>
      retry r (wanes.timers _ rfl live)
    exact ⟨retried.failures, retried.retries, retried.retryTimer, retried.due⟩

/-- While a connection is up it is not torn down. -/
theorem not_tornOnce_of_ignores (up : s.Up g) (ignores : s.Ignores s') : ¬s.TornOnce s' := by
  intro torn
  have same : s.machine.dropped = s.machine := torn.machine.symm.trans ignores.machine
  have down : s.machine.state = .disconnected := by rw [← same, Connection.Machine.dropped_state]
  simp [Up, down] at up

/-- A connection that is up is torn down, and a retry set, unless there is no delay to wait. -/
theorem answers_of_up (up : s.Up g)
    (retry : ∀ r, .retry r ∈ s.loop.timers → s.retryTimer = some (.retry r))
    (quiet : s.stopped = true → s.retryTimer = none) (cfg : Settings δ) (env : Surroundings) :
    s.Answers g (s.connectionLost cfg env g).1 ↔
      ¬(s.stopped = false ∧ ∃ f, cfg.retryDelay s.failures = .error f) := by
  constructor
  · rintro answers ⟨goesOn, unknown⟩
    have retried := answers.retried up goesOn
    exact (retried_connectionLost_iff up goesOn retry cfg env).mp retried unknown
  · intro known
    refine ⟨fun _ => tornOnce_connectionLost up cfg env, fun _ goesOn => ?_,
      fun _ stopped r live => ?_, fun down => absurd up down⟩
    · exact (retried_connectionLost_iff up goesOn retry cfg env).mpr fun unknown =>
        known ⟨goesOn, unknown⟩
    · obtain ⟨loop, wanes, lost⟩ := connectionLost_of_up up cfg env
      rw [lost, timers_scheduleRetry_of_stopped (by exact stopped)] at live
      exact nomatch (quiet stopped).symm.trans (retry r (wanes.timers _ rfl live))

/-- A signal that finds the connection up and aborts no call sets a retry, unless there is no
delay to wait. -/
theorem retried_step_iff (signals : s.Signals g event) (up : s.Up g) (goesOn : s.stopped = false)
    (whole : ¬event.Aborts cfg)
    (retry : ∀ r, .retry r ∈ s.loop.timers → s.retryTimer = some (.retry r)) (env : Surroundings) :
    s.Retried (s.step cfg env event) ↔ ¬∃ f, cfg.retryDelay s.failures = .error f := by
  rcases step_of_signals signals cfg env with ⟨-, t, before, after⟩ | ⟨aborts, -⟩
  · have same : s.Retried (s.step cfg env event) ↔ t.Retried (t.connectionLost cfg env g).1 :=
      ⟨.around before.symm after.symm, .around before after⟩
    rw [same]
    obtain ⟨loop, rfl, timers, -⟩ := before
    exact retried_connectionLost_iff (s := { s with loop }) up goesOn
      (fun r live => retry r (timers ▸ live)) cfg env
  · exact absurd aborts whole

/-- **A signal is answered** as it is to be, unless the connection is up and either the call of
the forced disconnect aborts or there is no delay to wait. -/
theorem answers_step_iff (signals : s.Signals g event)
    (retry : ∀ r, .retry r ∈ s.loop.timers → s.retryTimer = some (.retry r))
    (quiet : s.stopped = true → s.retryTimer = none) (cfg : Settings δ) (env : Surroundings) :
    s.Answers g (s.step cfg env event) ↔ ¬(s.Up g ∧ (event.Aborts cfg ∨
      s.stopped = false ∧ ∃ f, cfg.retryDelay s.failures = .error f)) := by
  have signal := step_of_signals signals cfg env
  by_cases up : s.Up g
  · rcases signal with ⟨whole, t, before, after⟩ | ⟨aborts, ignores⟩
    · have same : s.Answers g (s.step cfg env event) ↔
          t.Answers g (t.connectionLost cfg env g).1 :=
        ⟨.around before.symm after.symm, .around before after⟩
      have answered : t.Answers g (t.connectionLost cfg env g).1 ↔
          ¬(s.stopped = false ∧ ∃ f, cfg.retryDelay s.failures = .error f) := by
        obtain ⟨loop, rfl, timers, -⟩ := before
        exact answers_of_up (s := { s with loop }) up (fun r live => retry r (timers ▸ live)) quiet
          cfg env
      rw [same, answered]
      simp [up, whole]
    · refine iff_of_false (fun answers => ?_) fun fine => fine ⟨up, .inl aborts⟩
      exact not_tornOnce_of_ignores up ignores (answers.torn up)
  · have ignores : s.Ignores (s.step cfg env event) := by
      rcases signal with ⟨-, t, before, after⟩ | ⟨-, ignores⟩
      · obtain ⟨u, alike, lost⟩ :=
          connectionLost_of_not_up (fun there => up (before.up_iff.mp there)) cfg env
        rw [lost] at after
        exact (before.trans (.of_alike alike)).trans after
      · exact ignores
    exact iff_of_true (ignores.answers up) fun ⟨there, _⟩ => up there

/-- A signal that finds the connection up and aborts no call ends its generation. -/
theorem generation_lt_of_signals (signals : s.Signals g event) (up : s.Up g)
    (whole : ¬event.Aborts cfg) (env : Surroundings) :
    g < (s.step cfg env event).machine.generation := by
  rcases step_of_signals signals cfg env with ⟨-, t, before, after⟩ | ⟨aborts, -⟩
  · have torn := (tornOnce_connectionLost (before.up_iff.mpr up) cfg env).around before after
    obtain ⟨rfl, up⟩ := up
    rw [torn.machine]
    apply Connection.Machine.generation_lt_dropped
    rcases up with up | up <;> simp [up]
  · exact absurd aborts whole

end Supervisor

end SensorLink
