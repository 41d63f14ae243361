/-
# The supervisor persists

A supervisor that goes on does not stay disconnected for good: either the timer of
the next attempt is live, or the timer has gone off and the attempt is yet to begin.
Whatever gives a connection up sets the timer, unless the supervisor is stopped, and
the callbacks of other tasks carry both on.  The only one that takes a connection down
without setting the timer is a shutdown, which stops the supervisor first; so all of
this depends on nobody starting the supervisor while a shutdown is pending.

Nothing is asked of the state in which the supervisor is started.  A start that
finds it connected sets a timer to no purpose, but the connection sets another one
when it ends.
-/

import SensorLink.Proofs.Supervisor.Pace

namespace SensorLink

open Gatt (Ending)
open Link (Loop Point Settings Surroundings TaskId TimerId Works)
open Sensor (Kind)

/-- The policy allows a delay for any number of failures. -/
def Link.Settings.Unlimited {δ : Type} (cfg : Settings δ) : Prop :=
  ∀ failures, ∃ delay, cfg.retryDelay failures = .ok delay

namespace Supervisor

variable {δ : Type}

/-- A supervisor that goes on is disconnected only while the next attempt is to come. -/
def Persists (s : Supervisor δ) : Prop :=
  s.stopped = false → s.machine.state = .disconnected → (∃ r, s.Due r) ∨ ∃ n, s.Ready n

/-- What brings the next attempt is still there, and the connection is where it was. -/
structure Carries (s s' : Supervisor δ) : Prop where
  stopped : s'.stopped = s.stopped
  machine : s'.machine = s.machine
  due : ∀ r, s.Due r → s'.Due r
  ready : ∀ n, s.Ready n → s'.Ready n

/-- The supervisor is stopped, or the timer of the next attempt is live. -/
def Recovers (s : Supervisor δ) : Prop :=
  s.stopped = true ∨ ∃ r, s.Due r

/-- A task is no attempt that is yet to begin. -/
def Begun (s : Supervisor δ) (task : TaskId) : Prop :=
  ∀ n, task = .attempt n → ¬s.Ready n

variable {cfg : Settings δ} {alone : Prop} {vouch : Nat → Nat → Kind → Float → Prop}
  {s s' s'' : Supervisor δ} {env : Surroundings} {n x generation : Nat} {task : TaskId}
  {loop : Loop δ}

namespace Begun

theorem forced (s : Supervisor δ) (n : Nat) : s.Begun (.forcedDisconnect n) :=
  nofun

theorem attempt (begun : ¬s.Ready n) : s.Begun (.attempt n) := by
  rintro _ ⟨⟩
  exact begun

theorem of_point {point : Point} (here : s.loop.point? task = some point)
    (other : point ≠ .attemptStart) : s.Begun task := by
  rintro n rfl ready
  exact other (Option.some.inj (here.symm.trans ready))

theorem keeps {news : List Link.Notice} (begun : s.Begun task) (keeps : s.loop.Keeps news loop) :
    ({ s with loop } : Supervisor δ).Begun task := by
  intro n same ready
  exact begun n same ((keeps.points _ rfl).symm.trans ready)

end Begun

namespace Carries

theorem trans (first : s.Carries s') (second : s'.Carries s'') : s.Carries s'' where
  stopped := second.stopped.trans first.stopped
  machine := second.machine.trans first.machine
  due r due := second.due r (first.due r due)
  ready n ready := second.ready n (first.ready n ready)

/-- One task goes on or ends that is no attempt yet to begin. -/
theorem moves (moves : s.loop.Moves task loop) (due : ∀ r, s.Due r → .retry r ∈ loop.timers)
    (begun : s.Begun task) : s.Carries { s with loop } where
  stopped := rfl
  machine := rfl
  due := due
  ready n ready := by
    refine (moves.points _ rfl ?_).trans ready
    rintro rfl
    exact begun n rfl ready

theorem keeps {news : List Link.Notice} (keeps : s.loop.Keeps news loop) :
    s.Carries { s with loop } :=
  moves (.ofKeeps keeps (.forcedDisconnect 0)) (fun _ => (keeps.timers _ rfl).mpr) nofun

theorem journals (journals : s.Journals s') : s.Carries s' := by
  obtain ⟨loop, kept, rfl⟩ := journals
  exact keeps kept

theorem works {i : Nat} {taken : List Link.Taken} {l : Link δ} (works : Works i s.toLink taken l) :
    s.Carries { s with toLink := l } := by
  obtain ⟨machine, store, sessions, ingestions, loop⟩ := l
  obtain rfl : machine = s.machine := works.machine
  exact { keeps (s := s) works.loop with }

theorem finish (s : Supervisor δ) (begun : s.Begun task)
    (how : Link.Finish) : s.Carries (s.finish task how) :=
  moves (.finish s.loop task how) (fun _ => id) begun

theorem await (s : Supervisor δ) (begun : s.Begun task) (session : Nat)
    (call : Gatt.Call) (point : Point) : s.Carries (s.await task session call point) :=
  moves (s.moves_await task session call point) (fun _ => id) begun

theorem finishDiscard (begun : s.Begun (.attempt n)) (session : Nat) :
    s.Carries (s.finishDiscard n session) := by
  have gaveUp : s.Carries ((s.onLink (·.release session)).forget session) := by
    rw [release_forget_eq]
    exact ⟨rfl, rfl, fun _ => id, fun _ => id⟩
  refine gaveUp.trans (finish _ ?_ .done)
  rw [release_forget_eq]
  exact begun

theorem discard (begun : s.Begun (.attempt n)) (cfg : Settings δ)
    (env : Surroundings) (session : Nat) : s.Carries (s.discard cfg env n session) := by
  obtain ⟨loop, kept, waits | dropped⟩ := s.discard_cases cfg env n session
  · rw [waits]
    exact (keeps kept).trans (await _ (begun.keeps kept) _ _ _)
  · rw [dropped]
    exact (keeps kept).trans (finishDiscard (begun.keeps kept) session)

theorem resumeDiscarding (begun : s.Begun (.attempt n))
    (cfg : Settings δ) (session : Nat) (ending : Ending) :
    s.Carries (s.resumeDiscarding cfg n session ending) := by
  obtain ⟨loop, kept, dropped | ⟨how, ended⟩⟩ := s.resumeDiscarding_cases cfg n session ending
  · rw [dropped]
    exact (keeps kept).trans (finishDiscard (begun.keeps kept) session)
  · rw [ended]
    exact finish s begun how

/-- The limit of discovery is reached. -/
theorem discoveryExpired (s : Supervisor δ) (cfg : Settings δ) (n g : Nat) :
    s.Carries ((s.onLink (·.onLoop (·.expire (.discovery n g)))).discoveryExpired cfg n g) := by
  obtain ⟨loop, kept, expired⟩ := s.expire_discoveryExpired_eq cfg n g
  have gone := Loop.Moves.expire s.loop (.forcedDisconnect n) (.discovery n g)
  have live (r : Nat) (due : s.Due r) : .retry r ∈ (s.loop.expire (.discovery n g)).timers := by
    simpa [Due] using due
  rw [expired]
  split
  · have spawned := (gone.trans (.ofKeeps kept _)).trans
      (.spawn loop (.forcedDisconnect n) (.forcedStart s.session g))
    exact { moves (s := s) spawned (fun r due => (kept.timers _ rfl).mpr (live r due))
      (.forced s n) with }
  · exact { moves (s := s) gone live (.forced s n) with }

end Carries

namespace Recovers

/-- With a delay for any number of failures, scheduling a retry is all it takes to recover. -/
theorem scheduleRetry (unlimited : cfg.Unlimited) (s : Supervisor δ) :
    (s.scheduleRetry cfg).1.Recovers := by
  obtain ⟨delay, known⟩ := unlimited s.failures
  rcases Bool.eq_false_or_eq_true s.stopped with stopped | goesOn
  · obtain ⟨loop, -, said⟩ := s.scheduleRetry_said known
    rw [said, scheduleConnect_of_stopped (s := { s with failures := s.failures + 1, loop }) stopped]
    exact .inl stopped
  · exact .inr ⟨_, (Retimes.scheduleRetry goesOn known).1.due⟩

theorem failAttempt (unlimited : cfg.Unlimited) (s : Supervisor δ) (session : Option Nat) :
    (s.failAttempt cfg session).1.Recovers := by
  obtain ⟨t, given, -⟩ := s.failAttempt_eq cfg session
  rw [given]
  exact scheduleRetry unlimited t

theorem finishWith {outcome : Supervisor δ × Option Failure} (recovers : outcome.1.Recovers)
    (task : TaskId) : (finishWith task outcome).Recovers :=
  recovers

theorem persists (recovers : s.Recovers) : s.Persists := by
  intro goesOn _
  rcases recovers with stopped | due
  · exact nomatch goesOn.symm.trans stopped
  · exact .inl due

end Recovers

namespace Persists

theorem of_stopped (stopped : s.stopped = true) : s.Persists :=
  Recovers.persists (.inl stopped)

theorem of_connected (up : s.machine.state ≠ .disconnected) : s.Persists :=
  fun _ disconnected => absurd disconnected up

theorem carries (persists : s.Persists) (carries : s.Carries s') : s'.Persists := by
  intro goesOn disconnected
  rw [carries.stopped] at goesOn
  rw [carries.machine] at disconnected
  rcases persists goesOn disconnected with ⟨r, due⟩ | ⟨n, ready⟩
  · exact .inl ⟨r, carries.due r due⟩
  · exact .inr ⟨n, carries.ready n ready⟩

theorem report {outcome : Supervisor δ × Option Failure} (persists : outcome.1.Persists) :
    (report outcome).Persists :=
  persists.carries (.journals (Journals.report (.refl _)))

/-- A connection that is lost sets the timer of the next attempt. -/
theorem connectionLost (persists : s.Persists) (unlimited : cfg.Unlimited) (env : Surroundings)
    (generation : Int) : (s.connectionLost cfg env generation).1.Persists := by
  obtain ⟨loop, keeps, ignored | ⟨-, -, lost⟩⟩ := s.connectionLost_cases cfg env generation
  · rw [ignored]
    exact persists.carries (.keeps keeps)
  · rw [lost]
    exact (Recovers.scheduleRetry unlimited _).persists

theorem connectFailed (unlimited : cfg.Unlimited) (s : Supervisor δ) (n session : Nat)
    (f : Failure) : (s.connectFailed cfg n session f).Persists := by
  obtain ⟨loop, -, given⟩ := s.connectFailed_eq cfg n session f
  rw [given]
  exact ((Recovers.failAttempt unlimited _ _).finishWith _).persists

theorem finishForced (persists : s.Persists) (unlimited : cfg.Unlimited) (env : Surroundings)
    (n g : Nat) : (s.finishForced cfg env n g).Persists :=
  (persists.connectionLost unlimited env g).carries (.finish _ (Begun.forced _ n) _)

theorem forcedFailed (persists : s.Persists) (unlimited : cfg.Unlimited) (env : Surroundings)
    (n g : Nat) (f : Failure) : (s.forcedFailed cfg env n g f).Persists := by
  rw [Supervisor.forcedFailed]
  split
  · exact (persists.carries (.journals (.say s cfg .debug _))).finishForced unlimited env n g
  · exact persists.carries (.finish s (Begun.forced s n) _)

theorem startForced (persists : s.Persists) (unlimited : cfg.Unlimited) (env : Surroundings)
    (n : Nat) (session : Option Nat) (g : Nat) :
    (s.startForced cfg env n session g).Persists := by
  unfold Supervisor.startForced
  split
  · exact persists.finishForced unlimited env n g
  · split
    · exact persists.forcedFailed unlimited env n g _
    · exact persists.carries (.await s (Begun.forced s n) _ _ _)

theorem resumeForced (persists : s.Persists) (unlimited : cfg.Unlimited) (env : Surroundings)
    (n g : Nat) (ending : Ending) : (s.resumeForced cfg env n g ending).Persists := by
  rw [Supervisor.resumeForced]
  split
  · exact persists.carries (.finish s (Begun.forced s n) _)
  · exact persists.finishForced unlimited env n g
  · exact persists.forcedFailed unlimited env n g _

theorem finishShutdown (stopped : s.stopped = true) (cfg : Settings δ) (env : Surroundings)
    (n : Nat) : (s.finishShutdown cfg env n).Persists := by
  obtain ⟨loop, -, torn⟩ := s.teardown_eq cfg env
  obtain ⟨loop', -, said⟩ := Journals.say { s.torn with loop } cfg .info
    ("BLE session for " ++ cfg.address ++ " stopped")
  rw [Supervisor.finishShutdown, torn, said]
  exact .of_stopped stopped

theorem startShutdown (s : Supervisor δ) (cfg : Settings δ) (env : Surroundings) (n : Nat) :
    (s.startShutdown cfg env n).Persists := by
  have stopped : s.stopAttempts.stopped = true := by rw [stopAttempts_eq]
  obtain ⟨loop, -, ⟨-, ended⟩ | ⟨session, -, waits⟩⟩ := s.startShutdown_cases cfg env n
  · rw [ended]
    exact finishShutdown (s := { s.stopAttempts with loop }) stopped cfg env n
  · rw [waits]
    exact .of_stopped stopped

/-- A shutdown that goes on finds the supervisor stopped, if nobody started it meanwhile. -/
theorem resumeShutdown (stopped : s.stopped = true) (cfg : Settings δ) (env : Surroundings)
    (n : Nat) (ending : Ending) : (s.resumeShutdown cfg env n ending).Persists := by
  obtain ⟨loop, -, ⟨-, ended⟩ | ⟨-, how, -, ended⟩⟩ := s.resumeShutdown_cases cfg env n ending
  · rw [ended]
    exact finishShutdown (s := { s with loop }) stopped cfg env n
  · rw [ended]
    exact .of_stopped stopped

/-- The timer of the next attempt goes off: the attempt is created, unless the supervisor is
stopped or has a connection. -/
theorem beginAttempt (s : Supervisor δ) (r : Nat) :
    (s.onLink (·.onLoop (·.expire (.retry r)))).beginAttempt.Persists := by
  rw [expire_beginAttempt_eq]
  split
  · rename_i barred
    intro goesOn disconnected
    exact absurd barred (s.not_barred_iff.mpr ⟨goesOn, disconnected⟩)
  · exact fun _ _ => .inr ⟨s.attempts, by simp [Ready]⟩

theorem startAttempt (unlimited : cfg.Unlimited) (inv : Inv cfg alone vouch none s)
    (ready : s.Ready n) (env : Surroundings) : (s.startAttempt cfg env n).Persists := by
  obtain ⟨loop, -, ⟨-, refused⟩ | ⟨-, opened⟩⟩ :=
    startAttempt_cases (inv.eager_of_ready ready).1 cfg env n
  · rw [refused]
    exact ((Recovers.failAttempt unlimited _ _).finishWith _).persists
  · rw [opened]
    exact .of_connected nofun

theorem linkUp (persists : s.Persists) (unlimited : cfg.Unlimited)
    (inv : Inv cfg alone vouch none s) (places : s.Places n generation x) (env : Surroundings) :
    (s.linkUp cfg env n generation x).Persists := by
  by_cases current : generation = s.machine.generation
  · obtain ⟨-, connecting, -⟩ := (places.fits inv).of_current_connecting current
    subst current
    obtain ⟨loop, -, ⟨-, up⟩ | ⟨-, given⟩⟩ := linkUp_cases connecting cfg env n x
    · rw [up]
      refine .of_connected ?_
      rw [machine_startDiscovery]
      exact nofun
    · rw [given]
      exact ((Recovers.failAttempt unlimited _ _).finishWith _).persists
  · rw [linkUp_of_stale current]
    exact persists.carries (.discard (.attempt places.begun) cfg env x)

theorem transportUp (persists : s.Persists) (unlimited : cfg.Unlimited)
    (inv : Inv cfg alone vouch none s) (places : s.Places n generation x) (env : Surroundings) :
    (s.transportUp cfg env n generation x).Persists := by
  obtain ⟨loop, keeps, up | waits⟩ := s.transportUp_cases cfg env n generation x
  · rw [up]
    exact persists.linkUp unlimited inv places env
  · rw [waits]
    have begun := Begun.attempt (places.keeps keeps).begun
    exact persists.carries ((Carries.keeps keeps).trans (.await _ begun _ _ _))

theorem resumeConnecting (persists : s.Persists) (unlimited : cfg.Unlimited)
    (inv : Inv cfg alone vouch none s) (places : s.Places n generation x) (env : Surroundings)
    (ending : Ending) : (s.resumeConnecting cfg env n generation x ending).Persists := by
  unfold Supervisor.resumeConnecting
  split
  · exact persists.carries (.finish s (.attempt places.begun) _)
  · exact persists.transportUp unlimited inv places env
  · exact connectFailed unlimited s n x _

theorem resumePairing (persists : s.Persists) (unlimited : cfg.Unlimited)
    (inv : Inv cfg alone vouch none s) (places : s.Places n generation x) (env : Surroundings)
    (ending : Ending) : (s.resumePairing cfg env n generation x ending).Persists := by
  unfold Supervisor.resumePairing
  split
  · exact persists.carries (.finish s (.attempt places.begun) _)
  · exact persists.linkUp unlimited inv places env
  · exact connectFailed unlimited s n x _

/-- The end of discovery leaves the connection up. -/
theorem resumeDiscovering (persists : s.Persists) (inv : Inv cfg alone vouch none s)
    (here : s.loop.point? (.attempt n) = some (.discovering generation x)) (env : Surroundings)
    (reading : Except Failure (Option Gatt.Tree)) :
    (s.resumeDiscovering cfg env n generation x reading).Persists := by
  obtain ⟨loop, keeps, ended | ⟨current, tree, settled⟩⟩ :=
    s.resumeDiscovering_cases cfg env n generation x reading
  · have begun : ({ s with loop } : Supervisor δ).Begun (.attempt n) :=
      (Begun.of_point here nofun).keeps keeps
    rw [ended]
    exact persists.carries ((Carries.keeps keeps).trans (.finish _ begun _))
  · obtain ⟨-, discovering, -⟩ := (inv.attempts n _ nofun here).of_current_discovering current
    have up : (s.setUp cfg env x tree).1.machine.state ≠ .disconnected := by
      obtain ⟨loop, -, same | ⟨handles, ⟨-, same⟩ | ⟨ingestions, loop', -, -, same⟩⟩⟩ :=
        setUp_cases discovering cfg env x tree
      · simp [same, discovering]
      · simp [same, discovering]
      · rw [same]
        exact nofun
    rw [settled]
    exact .of_connected up

theorem start (persists : s.Persists) (cfg : Settings δ) : (s.start cfg).Persists := by
  rw [Supervisor.start]
  split
  · have set := Retimes.scheduleConnect
      (s := { s with stopped := false, failures := 0 }) rfl cfg.atOnce
    exact Recovers.persists (.inr ⟨_, set.due⟩)
  · exact persists

theorem requestShutdown (persists : s.Persists) : s.requestShutdown.Persists := by
  have moves := Loop.Moves.spawn s.loop (.shutdown s.shutdowns) .shutdownStart
  exact persists.carries { Carries.moves (s := s) moves (fun _ => id) nofun with }

theorem expired (persists : s.Persists) (cfg : Settings δ) (env : Surroundings)
    (timer : TimerId) : (s.step cfg env (.expired timer)).Persists := by
  simp only [Supervisor.step]
  split
  · cases timer with
    | retry r => exact beginAttempt s r
    | discovery n g => exact persists.carries (.discoveryExpired s cfg n g)
    | tick i number =>
      have went : s.Carries { s with loop := s.loop.expire (.tick i number) } :=
        .keeps (.expire s.loop _ rfl)
      exact persists.carries (went.trans (.works (Link.tick_works _ cfg i)))
  · exact persists

theorem handleBegin (persists : s.Persists) (unlimited : cfg.Unlimited)
    (inv : Inv cfg alone vouch none s) (env : Surroundings) {point : Point}
    (here : s.loop.point? task = some point) : (s.handleBegin cfg env task point).Persists := by
  unfold Supervisor.handleBegin
  split
  · exact startAttempt unlimited inv here env
  · exact persists.startForced unlimited env _ _ _
  · exact startShutdown s cfg env _
  · exact persists.carries (.works (Link.beginSubscription_works _ cfg _ _ _ _ _))
  · exact persists.carries (.works (Link.beginRead_works _ cfg env _ _ _ _ _))
  · exact persists

theorem handleResume (persists : s.Persists) (unlimited : cfg.Unlimited)
    (inv : Inv cfg alone vouch none s)
    (stopped : ∀ n, s.loop.point? (.shutdown n) = some .shutdownClosing → s.stopped = true)
    (env : Surroundings) (ending : Ending) {point : Point}
    (here : s.loop.point? task = some point) :
    (s.handleResume cfg env ending task point).Persists := by
  unfold Supervisor.handleResume
  split
  · exact persists.resumeConnecting unlimited inv (.inl here) env ending
  · exact persists.resumePairing unlimited inv (.inr here) env ending
  · exact persists.carries (.resumeDiscarding (.of_point here nofun) cfg _ ending)
  · exact persists.resumeForced unlimited env _ _ ending
  · exact resumeShutdown (stopped _ here) cfg env _ ending
  · exact persists.carries (.works (Link.resumeSubscription_works _ cfg _ _ _ _ ending))
  · exact persists.carries (.works (Link.resumeRead_works _ cfg env _ _ _ _ ending))
  · exact persists.carries (.works (Link.resumeSubscription_works _ cfg _ _ _ _ .cancelled))
  · exact persists.carries (.works (Link.resumeRead_works _ cfg env _ _ _ none .cancelled))
  · exact persists.carries (.finish s (.of_point here nofun) .cancelled)
  · split
    · exact persists.carries (.finish s (.of_point here nofun) .cancelled)
    · exact persists
  · exact persists

/-- Every lawful callback leaves a supervisor that persists, if a shutdown that waits has stopped
it. -/
theorem step (persists : s.Persists) (unlimited : cfg.Unlimited)
    (inv : Inv cfg alone vouch none s)
    (stopped : ∀ n, s.loop.point? (.shutdown n) = some .shutdownClosing → s.stopped = true)
    {event : Event} (lawful : Lawful env event) : (s.step cfg env event).Persists := by
  cases event with
  | expired timer => exact persists.expired cfg env timer
  | begins task =>
    cases here : s.loop.point? task with
    | none =>
      simp only [Supervisor.step, here]
      exact persists
    | some point =>
      rw [step_begins here]
      exact persists.handleBegin unlimited inv env here
  | resumed task ending =>
    cases here : s.loop.point? task with
    | none =>
      simp only [Supervisor.step, here]
      exact persists
    | some point =>
      rw [step_resumed here]
      exact persists.handleResume unlimited inv stopped env ending here
  | treeRead task reading =>
    unfold Supervisor.step
    simp only
    split
    · exact persists.resumeDiscovering inv ‹_› env reading
    · exact persists
  | linkLost generation => exact (persists.connectionLost unlimited env generation).report
  | notified i handle payload =>
    have notified := Link.notified_works s.toLink cfg i handle payload lawful.calm
    exact (persists.carries (.works notified)).report
  | started => exact persists.start cfg
  | shutdownAsked => exact persists.requestShutdown
  | transitionAsked target => exact absurd rfl (lawful.unasked target)

end Persists

/-- **The supervisor persists** throughout a run in which nobody starts it while a shutdown is
pending, if the policy allows a delay for any number of failures. -/
theorem Run.persists {past : List (Moment δ)} (run : Run cfg past s)
    (obedient : ∀ m ∈ past, m.Obedient) (unlimited : cfg.Unlimited)
    (patient : ∀ m ∈ past, m.before.Patient m.event) : s.Persists := by
  induction run with
  | fresh => exact .of_stopped rfl
  | step m run lawful ih =>
    simp only [List.forall_mem_append, List.forall_mem_singleton] at obedient patient
    have tidy : Tidy (fun _ => True) m.before := run.tidy obedient.1 fun _ _ => patient.1
    have stopped (n : Nat) (here : m.before.loop.point? (.shutdown n) = some .shutdownClosing) :
        m.before.stopped = true := (tidy.closing n trivial here).1
    exact (ih obedient.1 patient.1).step unlimited (run.inv obedient.1) stopped lawful

end Supervisor

end SensorLink
