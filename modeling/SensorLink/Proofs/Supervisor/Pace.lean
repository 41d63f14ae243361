/-
# What becomes of the next attempt

The next attempt is timed, created and begun: a timer is set, an attempt is created when
it goes off, and the attempt opens a session in its first step.  Most callbacks are calm
and do none of this, though what was pending may fall away.  `Pace` lists the others.
A callback that gives a connection up counts a failure and sets the timer; a start sets
it at once and forgets the failures, and so does a connection that becomes ready.
-/

import SensorLink.Proofs.Supervisor.Turns

namespace SensorLink

open Gatt (Ending)
open Link (Loop Point Settings Surroundings TaskId TimerId Works)
open Sensor (Kind)

namespace Supervisor

variable {δ : Type}

/-- No timer is set for an attempt. -/
structure Quiet (s s' : Supervisor δ) : Prop where
  retries : s'.retries = s.retries
  due : ∀ r, s'.Due r → s.Due r
  stopped : s'.stopped = false → s.stopped = false
  limit : ∀ timer, s'.discoveryTimer = some timer →
    s.discoveryTimer = some timer ∨ ∃ n g, timer = .discovery n g

/-- Nothing new is known of the next attempt. -/
structure Calm (s s' : Supervisor δ) : Prop extends Quiet s s' where
  sessions : s'.sessions.length = s.sessions.length
  ready : ∀ n, s'.Ready n → s.Ready n
  failures : s'.stopped = false → s'.failures = s.failures
  up : s'.machine.state = .ready → s.machine.state = .ready

/-- The timer of the next attempt is set. -/
structure Retimes (s s' : Supervisor δ) (wait : δ) : Prop where
  goesOn : s'.stopped = false
  retries : s'.retries = s.retries + 1
  charge : s'.retryTimer = some (.retry s.retries)
  due : s'.Due s.retries
  written : .schedule (.retry s.retries) (.delay wait) ∈ s'.loop.tape
  sessions : s'.sessions.length = s.sessions.length
  up : s'.machine.state = .ready → s.machine.state = .ready
  limit : ∀ timer, s'.discoveryTimer = some timer →
    s.discoveryTimer = some timer ∨ ∃ n g, timer = .discovery n g

/-- Nothing new is known of the next attempt, or a failure is counted and the timer set for it. -/
inductive Paces (cfg : Settings δ) (s s' : Supervisor δ) : Prop where
  | calm : s.Calm s' → Paces cfg s s'
  | retries {wait : δ} : s.stopped = false → cfg.retryDelay s.failures = .ok wait →
    s'.failures = s.failures + 1 → s.Retimes s' wait → Paces cfg s s'

variable {cfg : Settings δ} {alone : Prop} {watched : Nat → Prop}
  {vouch : Nat → Nat → Kind → Float → Prop} {s s' s'' : Supervisor δ} {env : Surroundings}
  {event : Event} {n x generation : Nat} {loop : Loop δ} {wait : δ}

namespace Quiet

theorem trans (first : s.Quiet s') (second : s'.Quiet s'') : s.Quiet s'' where
  retries := second.retries.trans first.retries
  due r due := first.due r (second.due r due)
  stopped goesOn := first.stopped (second.stopped goesOn)
  limit timer known := (second.limit timer known).elim (first.limit timer) .inr

end Quiet

namespace Calm

theorem refl (s : Supervisor δ) : s.Calm s where
  retries := rfl
  due _ due := due
  stopped goesOn := goesOn
  limit _ known := .inl known
  sessions := rfl
  ready _ ready := ready
  failures _ := rfl
  up ready := ready

theorem trans (first : s.Calm s') (second : s'.Calm s'') : s.Calm s'' where
  toQuiet := first.toQuiet.trans second.toQuiet
  sessions := second.sessions.trans first.sessions
  ready n ready := first.ready n (second.ready n ready)
  failures goesOn := (second.failures goesOn).trans (first.failures (second.stopped goesOn))
  up ready := first.up (second.up ready)

/-- Only the loop changes: no timer of an attempt is new, and no attempt that has not begun. -/
theorem onLoop (due : ∀ r, .retry r ∈ loop.timers → .retry r ∈ s.loop.timers)
    (ready : ∀ n, loop.point? (.attempt n) = some .attemptStart → s.Ready n) :
    s.Calm { s with loop } :=
  { refl s with due, ready }

theorem wanes {news : List Link.Notice} (wanes : s.loop.Wanes news loop) :
    s.Calm { s with loop } := by
  refine onLoop (fun r => wanes.timers _ rfl) fun n ready => ?_
  rcases wanes.points _ _ rfl ready with before | ⟨absurdity, -⟩
  · exact before
  · cases absurdity

theorem keeps {news : List Link.Notice} (keeps : s.loop.Keeps news loop) :
    s.Calm { s with loop } :=
  wanes keeps.wanes

theorem journals (journals : s.Journals s') : s.Calm s' := by
  obtain ⟨loop, keeps, rfl⟩ := journals
  exact .keeps keeps

/-- A task goes on, and is no attempt that is yet to begin. -/
theorem moves {task : TaskId} (moves : s.loop.Moves task loop)
    (due : ∀ r, .retry r ∈ loop.timers → .retry r ∈ s.loop.timers)
    (begun : loop.point? task ≠ some .attemptStart) : s.Calm { s with loop } := by
  refine onLoop due fun n ready => ?_
  by_cases same : .attempt n = task
  · exact absurd (same ▸ ready) begun
  · exact (moves.points _ rfl same).symm.trans ready

theorem finish (s : Supervisor δ) (task : TaskId) (how : Link.Finish) :
    s.Calm (s.finish task how) :=
  wanes (.finish s.loop task how)

theorem await (s : Supervisor δ) (task : TaskId) (session : Nat) (call : Gatt.Call)
    {point : Point} (begun : point ≠ .attemptStart) :
    s.Calm (s.await task session call point) := by
  apply moves (s.moves_await task session call point) (fun _ due => due)
  rw [point?_await]
  exact fun same => begun (Option.some.inj same)

theorem works {i : Nat} {taken : List Link.Taken} {l : Link δ} (works : Works i s.toLink taken l) :
    s.Calm { s with toLink := l } := by
  obtain ⟨machine, store, sessions, ingestions, loop⟩ := l
  obtain rfl : machine = s.machine := works.machine
  obtain rfl : sessions = s.sessions := works.sessions
  exact { keeps (s := s) works.loop with }

theorem report {outcome : Supervisor δ × Option Failure} (calm : s.Calm outcome.1) :
    s.Calm (report outcome) :=
  calm.trans (journals (Journals.report (.refl _)))

theorem finishWith {outcome : Supervisor δ × Option Failure} (calm : s.Calm outcome.1)
    (task : TaskId) : s.Calm (finishWith task outcome) :=
  calm.trans (finish _ _ _)

/-- A session gives its client up, and is forgotten if it is in charge. -/
theorem giveUp (s : Supervisor δ) (x : Nat) : s.Calm ((s.onLink (·.release x)).forget x) := by
  rw [release_forget_eq]
  exact { refl s with sessions := List.length_modify .. }

theorem teardown (s : Supervisor δ) (cfg : Settings δ) (env : Surroundings) :
    s.Calm (s.teardown cfg env) := by
  obtain ⟨loop, wanes, torn⟩ := s.teardown_eq cfg env
  rw [torn]
  exact { Calm.wanes (s := s) wanes with
    sessions := Inv.length_sessions_torn s
    limit := nofun
    up := fun ready => nomatch s.machine.dropped_state.symm.trans ready }

theorem dropState (s : Supervisor δ) (cfg : Settings δ) : s.Calm (s.dropState cfg) := by
  obtain ⟨loop, keeps, left⟩ := s.dropState_eq cfg
  rw [left]
  exact { Calm.keeps (s := s) keeps with
    up := fun ready => nomatch s.machine.dropped_state.symm.trans ready }

theorem stopAttempts (s : Supervisor δ) : s.Calm s.stopAttempts := by
  rw [stopAttempts_eq]
  exact { Calm.wanes (s := s) s.wanes_stoppedLoop with
    stopped := nofun
    failures := nofun }

end Calm

theorem scheduleRetry_said (s : Supervisor δ) (known : cfg.retryDelay s.failures = .ok wait) :
    ∃ loop, s.loop.Keeps [] loop ∧ s.scheduleRetry cfg =
      (Supervisor.scheduleConnect { s with failures := s.failures + 1, loop } wait, none) := by
  obtain ⟨loop, keeps, said⟩ := Journals.say { s with failures := s.failures + 1 } cfg .info
    ("Reconnecting to " ++ cfg.address ++ " in " ++ cfg.showDelay wait ++ "s")
  refine ⟨loop, keeps, ?_⟩
  rw [scheduleRetry, known]
  exact congrArg (fun s : Supervisor δ => (s.scheduleConnect wait, none)) said

namespace Retimes

/-- The timer is set after a calm callback. -/
theorem after (calm : s.Calm s') (retimes : s'.Retimes s'' wait) : s.Retimes s'' wait where
  goesOn := retimes.goesOn
  retries := retimes.retries.trans (congrArg (· + 1) calm.retries)
  charge := calm.retries ▸ retimes.charge
  due := calm.retries ▸ retimes.due
  written := calm.retries ▸ retimes.written
  sessions := retimes.sessions.trans calm.sessions
  up ready := calm.up (retimes.up ready)
  limit timer known := (retimes.limit timer known).elim (calm.limit timer) .inr

/-- Whatever is written and whichever task moves afterwards, the timer stays set. -/
theorem onLoop (retimes : s.Retimes s' wait)
    (due : ∀ r, .retry r ∈ s'.loop.timers → .retry r ∈ loop.timers)
    (tape : s'.loop.tape ⊆ loop.tape) : s.Retimes { s' with loop } wait :=
  { retimes with
    due := due _ retimes.due
    written := tape retimes.written }

/-- The timer is set anew. -/
theorem scheduleConnect (goesOn : s.stopped = false) (delay : δ) :
    s.Retimes (s.scheduleConnect delay) delay := by
  rw [scheduleConnect_eq goesOn]
  exact {
    goesOn
    retries := rfl
    charge := rfl
    due := (Loop.mem_timers_replace _ _ _ _ _).mpr (.inl rfl)
    written := by simp [Loop.tape_replace]
    sessions := rfl
    up := id
    limit := fun _ => .inl }

/-- With a delay to wait, a supervisor that goes on counts a failure and sets the timer. -/
theorem scheduleRetry (goesOn : s.stopped = false) (known : cfg.retryDelay s.failures = .ok wait) :
    s.Retimes (s.scheduleRetry cfg).1 wait ∧
      (s.scheduleRetry cfg).1.failures = s.failures + 1 ∧ (s.scheduleRetry cfg).2 = none := by
  obtain ⟨loop, keeps, said⟩ := s.scheduleRetry_said known
  have set := Retimes.scheduleConnect
    (s := { s with failures := s.failures + 1, loop }) goesOn wait
  rw [said]
  refine ⟨{ set with }, ?_, rfl⟩
  rw [scheduleConnect_eq (s := { s with failures := s.failures + 1, loop }) goesOn]

end Retimes

/-- Giving an attempt up is calm until it comes to the retry. -/
theorem failAttempt_eq (s : Supervisor δ) (cfg : Settings δ) (session : Option Nat) :
    ∃ t : Supervisor δ, s.failAttempt cfg session = t.scheduleRetry cfg ∧ s.Calm t ∧
      t.stopped = s.stopped ∧ t.failures = s.failures := by
  have dropped (s : Supervisor δ) :
      (s.dropState cfg).stopped = s.stopped ∧ (s.dropState cfg).failures = s.failures := by
    obtain ⟨loop, -, left⟩ := s.dropState_eq cfg
    rw [left]
    exact ⟨rfl, rfl⟩
  cases session with
  | none => exact ⟨_, rfl, .dropState s cfg, dropped s⟩
  | some x =>
    have gaveUp : ((s.onLink (·.release x)).forget x).stopped = s.stopped ∧
        ((s.onLink (·.release x)).forget x).failures = s.failures := by
      rw [release_forget_eq]
      exact ⟨rfl, rfl⟩
    obtain ⟨stopped, failures⟩ := dropped ((s.onLink (·.release x)).forget x)
    exact ⟨_, rfl, (Calm.giveUp s x).trans (.dropState _ cfg), stopped.trans gaveUp.1,
      failures.trans gaveUp.2⟩

/-- An attempt that is given up sets the timer of the next one, if there is a delay to wait. -/
theorem Retimes.failAttempt (goesOn : s.stopped = false)
    (known : cfg.retryDelay s.failures = .ok wait) (session : Option Nat) :
    s.Retimes (s.failAttempt cfg session).1 wait ∧
      (s.failAttempt cfg session).1.failures = s.failures + 1 ∧
      (s.failAttempt cfg session).2 = none := by
  obtain ⟨t, given, calm, stopped, failures⟩ := s.failAttempt_eq cfg session
  rw [given, ← failures]
  obtain ⟨set, counted, returns⟩ := Retimes.scheduleRetry (stopped.trans goesOn) (failures ▸ known)
  exact ⟨.after calm set, counted, returns⟩

/-- Without a delay to wait nothing new is known of the next attempt. -/
theorem Calm.failAttempt {f : Failure} (unknown : cfg.retryDelay s.failures = .error f)
    (session : Option Nat) :
    s.Calm (s.failAttempt cfg session).1 ∧ (s.failAttempt cfg session).2 = some f := by
  obtain ⟨t, given, calm, -, failures⟩ := s.failAttempt_eq cfg session
  rw [given, Supervisor.scheduleRetry, failures, unknown]
  exact ⟨calm, rfl⟩

namespace Paces

theorem after (calm : s.Calm s') (paces : Paces cfg s' s'') : Paces cfg s s'' := by
  cases paces with
  | calm later => exact .calm (calm.trans later)
  | retries goesOn known counted retimes =>
    rw [calm.failures goesOn] at known counted
    exact .retries (calm.stopped goesOn) known counted (.after calm retimes)

theorem finish (paces : Paces cfg s s') (task : TaskId) (how : Link.Finish) :
    Paces cfg s (s'.finish task how) := by
  cases paces with
  | calm calm => exact .calm (calm.trans (.finish s' task how))
  | retries goesOn known counted retimes =>
    refine .retries goesOn known counted (retimes.onLoop (fun _ due => due) ?_)
    exact (Loop.Moves.finish s'.loop task how).tape

theorem finishWith {outcome : Supervisor δ × Option Failure} (paces : Paces cfg s outcome.1)
    (task : TaskId) : Paces cfg s (finishWith task outcome) :=
  paces.finish task _

theorem report {outcome : Supervisor δ × Option Failure} (paces : Paces cfg s outcome.1) :
    Paces cfg s (report outcome) := by
  cases paces with
  | calm calm => exact .calm calm.report
  | retries goesOn known counted retimes =>
    obtain ⟨loop, keeps, told⟩ := Journals.report (.refl outcome.1)
    rw [told]
    exact .retries goesOn known counted
      (retimes.onLoop (fun _ => (keeps.timers _ rfl).mpr) keeps.tape)

theorem scheduleRetry (s : Supervisor δ) (cfg : Settings δ) :
    Paces cfg s (s.scheduleRetry cfg).1 := by
  cases known : cfg.retryDelay s.failures with
  | error f =>
    rw [Supervisor.scheduleRetry, known]
    exact .calm (.refl s)
  | ok delay =>
    rcases Bool.eq_false_or_eq_true s.stopped with stopped | goesOn
    · obtain ⟨loop, keeps, said⟩ := s.scheduleRetry_said known
      rw [said,
        scheduleConnect_of_stopped (s := { s with failures := s.failures + 1, loop }) stopped]
      refine .calm { Calm.keeps (s := s) keeps with failures := fun goesOn => ?_ }
      simp [stopped] at goesOn
    · obtain ⟨set, counted, -⟩ := Retimes.scheduleRetry goesOn known
      exact .retries goesOn known counted set

/-- A connection that is up is lost. -/
theorem connectionLost (s : Supervisor δ) (cfg : Settings δ) (env : Surroundings)
    (generation : Int) : Paces cfg s (s.connectionLost cfg env generation).1 := by
  obtain ⟨loop, keeps, ignored | ⟨-, -, lost⟩⟩ := s.connectionLost_cases cfg env generation
  · rw [ignored]
    exact .calm (.keeps keeps)
  · rw [lost]
    exact after ((Calm.keeps keeps).trans (.teardown _ cfg env)) (scheduleRetry _ cfg)

theorem failAttempt (s : Supervisor δ) (cfg : Settings δ) (session : Option Nat) :
    Paces cfg s (s.failAttempt cfg session).1 := by
  obtain ⟨t, given, calm, -⟩ := s.failAttempt_eq cfg session
  rw [given]
  exact after calm (scheduleRetry t cfg)

theorem connectFailed (s : Supervisor δ) (cfg : Settings δ) (n session : Nat) (f : Failure) :
    Paces cfg s (s.connectFailed cfg n session f) := by
  obtain ⟨loop, keeps, failed⟩ := s.connectFailed_eq cfg n session f
  rw [failed]
  exact (after (.keeps keeps) (failAttempt _ cfg (some session))).finishWith _

end Paces

namespace Calm

theorem finishShutdown (s : Supervisor δ) (cfg : Settings δ) (env : Surroundings) (n : Nat) :
    s.Calm (s.finishShutdown cfg env n) :=
  ((teardown s cfg env).trans (journals (.say _ cfg .info _))).trans (finish _ _ _)

theorem startShutdown (s : Supervisor δ) (cfg : Settings δ) (env : Surroundings) (n : Nat) :
    s.Calm (s.startShutdown cfg env n) := by
  obtain ⟨loop, keeps, ⟨-, ended⟩ | ⟨session, -, waits⟩⟩ := s.startShutdown_cases cfg env n
  · rw [ended]
    exact ((stopAttempts s).trans (.keeps keeps)).trans (finishShutdown _ cfg env n)
  · rw [waits]
    exact ((stopAttempts s).trans (.keeps keeps)).trans (await _ _ _ _ nofun)

theorem resumeShutdown (s : Supervisor δ) (cfg : Settings δ) (env : Surroundings) (n : Nat)
    (ending : Ending) : s.Calm (s.resumeShutdown cfg env n ending) := by
  obtain ⟨loop, keeps, ⟨-, ended⟩ | ⟨-, how, -, ended⟩⟩ := s.resumeShutdown_cases cfg env n ending
  · rw [ended]
    exact (Calm.keeps keeps).trans (finishShutdown _ cfg env n)
  · rw [ended]
    exact finish s _ how

theorem finishDiscard (s : Supervisor δ) (n session : Nat) :
    s.Calm (s.finishDiscard n session) :=
  (giveUp s session).trans (finish _ _ _)

theorem discard (s : Supervisor δ) (cfg : Settings δ) (env : Surroundings) (n session : Nat) :
    s.Calm (s.discard cfg env n session) := by
  obtain ⟨loop, keeps, waits | dropped⟩ := s.discard_cases cfg env n session
  · rw [waits]
    exact (Calm.keeps keeps).trans (await _ _ _ _ nofun)
  · rw [dropped]
    exact (Calm.keeps keeps).trans (finishDiscard _ n session)

theorem resumeDiscarding (s : Supervisor δ) (cfg : Settings δ) (n session : Nat)
    (ending : Ending) : s.Calm (s.resumeDiscarding cfg n session ending) := by
  obtain ⟨loop, keeps, dropped | ⟨how, ended⟩⟩ := s.resumeDiscarding_cases cfg n session ending
  · rw [dropped]
    exact (Calm.keeps keeps).trans (finishDiscard _ n session)
  · rw [ended]
    exact finish s _ how

/-- The limit of discovery is reached. -/
theorem discoveryExpired (s : Supervisor δ) (cfg : Settings δ) (n g : Nat) :
    s.Calm ((s.onLink (·.onLoop (·.expire (.discovery n g)))).discoveryExpired cfg n g) := by
  obtain ⟨loop, keeps, expired⟩ := s.expire_discoveryExpired_eq cfg n g
  have gone : s.loop.Wanes [] (s.loop.expire (.discovery n g)) := .expire s.loop _
  have due (r : Nat) (live : .retry r ∈ loop.timers) : .retry r ∈ s.loop.timers :=
    gone.timers _ rfl ((keeps.timers _ rfl).mp live)
  rw [expired]
  split
  · have spawned : s.Calm { s with
        loop := loop.spawn (.forcedDisconnect n) (.forcedStart s.session g) } := by
      refine onLoop due fun m ready => ?_
      rw [Loop.point?_spawn, if_neg (by simp)] at ready
      exact (wanes (keeps.wanes.before gone)).ready m ready
    exact { spawned with limit := nofun }
  · exact { wanes (s := s) gone with limit := nofun }

/-- Discovery begins. -/
theorem startDiscovery (s : Supervisor δ) (cfg : Settings δ) (n generation session : Nat) :
    s.Calm (s.startDiscovery cfg n generation session) := by
  have asks (s : Supervisor δ) : s.Calm (s.onLink (·.onLoop fun loop =>
      (loop.suspend (.attempt n) (.discovering generation session)).emit
        (.requestTree (.attempt n) session))) := by
    refine onLoop (fun _ due => due) fun m ready => ?_
    rw [Loop.point?_emit, Loop.point?_suspend] at ready
    split at ready
    · cases ready
    · exact ready
  unfold Supervisor.startDiscovery
  cases cfg.discoveryLimit with
  | none => exact asks s
  | some limit =>
    refine Calm.trans ?_ (asks _)
    exact { refl s with
      due := fun r due => by simpa [Due, onLink, Link.onLoop] using due
      limit := fun timer known => .inr ⟨n, generation, (Option.some.inj known).symm⟩ }

/-- The limit of discovery is taken back. -/
theorem untimed (s : Supervisor δ) :
    s.Calm { s with discoveryTimer := none, loop := s.untimedLoop } :=
  { wanes (s := s) s.wanes_untimedLoop with limit := nofun }

/-- Discovery begins with a connection that comes up. -/
theorem enterDiscovering (s : Supervisor δ) (session : Nat) :
    s.Calm { s with machine := s.machine.enter .discovering (some session) } :=
  { refl s with up := nofun }

end Calm

namespace Paces

theorem finishForced (s : Supervisor δ) (cfg : Settings δ) (env : Surroundings) (n g : Nat) :
    Paces cfg s (s.finishForced cfg env n g) :=
  (connectionLost s cfg env g).finishWith _

theorem forcedFailed (s : Supervisor δ) (cfg : Settings δ) (env : Surroundings) (n g : Nat)
    (f : Failure) : Paces cfg s (s.forcedFailed cfg env n g f) := by
  unfold Supervisor.forcedFailed
  split
  · exact after (.journals (.say s cfg .debug _)) (finishForced _ cfg env n g)
  · exact .calm (.finish s _ _)

theorem startForced (s : Supervisor δ) (cfg : Settings δ) (env : Surroundings) (n : Nat)
    (session : Option Nat) (g : Nat) : Paces cfg s (s.startForced cfg env n session g) := by
  unfold Supervisor.startForced
  split
  · exact finishForced s cfg env n g
  · split
    · exact forcedFailed s cfg env n g _
    · exact .calm (.await s _ _ _ nofun)

theorem resumeForced (s : Supervisor δ) (cfg : Settings δ) (env : Surroundings) (n g : Nat)
    (ending : Ending) : Paces cfg s (s.resumeForced cfg env n g ending) := by
  unfold Supervisor.resumeForced
  split
  · exact .calm (.finish s _ _)
  · exact finishForced s cfg env n g
  · exact forcedFailed s cfg env n g _

theorem linkUp (inv : Inv cfg alone vouch none s) (places : s.Places n generation x)
    (env : Surroundings) : Paces cfg s (s.linkUp cfg env n generation x) := by
  by_cases current : generation = s.machine.generation
  · obtain ⟨-, connecting, -⟩ := (places.fits inv).of_current_connecting current
    subst current
    obtain ⟨loop, keeps, ⟨-, up⟩ | ⟨-, given⟩⟩ := linkUp_cases connecting cfg env n x
    · rw [up]
      have entered := (Calm.keeps keeps).trans (.enterDiscovering { s with loop } x)
      exact .calm (entered.trans (.startDiscovery _ cfg n _ x))
    · rw [given]
      exact (after (.keeps keeps) (failAttempt _ cfg (some x))).finishWith _
  · rw [linkUp_of_stale current]
    exact .calm (.discard s cfg env n x)

theorem transportUp (inv : Inv cfg alone vouch none s) (places : s.Places n generation x)
    (env : Surroundings) : Paces cfg s (s.transportUp cfg env n generation x) := by
  obtain ⟨loop, keeps, up | waits⟩ := s.transportUp_cases cfg env n generation x
  · rw [up]
    exact linkUp inv places env
  · rw [waits]
    exact .calm ((Calm.keeps keeps).trans (.await _ _ _ _ nofun))

theorem resumeConnecting (inv : Inv cfg alone vouch none s) (places : s.Places n generation x)
    (env : Surroundings) (ending : Ending) :
    Paces cfg s (s.resumeConnecting cfg env n generation x ending) := by
  unfold Supervisor.resumeConnecting
  split
  · exact .calm (.finish s _ _)
  · exact transportUp inv places env
  · exact connectFailed s cfg n x _

theorem resumePairing (inv : Inv cfg alone vouch none s) (places : s.Places n generation x)
    (env : Surroundings) (ending : Ending) :
    Paces cfg s (s.resumePairing cfg env n generation x ending) := by
  unfold Supervisor.resumePairing
  split
  · exact .calm (.finish s _ _)
  · exact linkUp inv places env
  · exact connectFailed s cfg n x _

end Paces

/-! ## Events -/

/-- What a callback does about the next attempt.  A start of a supervisor that is running does
nothing at all. -/
inductive Pace (cfg : Settings δ) (s : Supervisor δ) (event : Event) (s' : Supervisor δ) :
    Prop where
  /-- Nothing new, or a failure is counted and the timer set. -/
  | paces : Paces cfg s s' → (event = .started → s.stopped = false ∧ s' = s) → Pace cfg s event s'
  /-- The supervisor is started. -/
  | starts : event = .started → s.stopped = true → s'.failures = 0 →
    s.Retimes s' cfg.atOnce → Pace cfg s event s'
  /-- The timer has gone off, and an attempt is created. -/
  | creates {r : Nat} : event = .expired (.retry r) → s.Due r → s.Quiet s' →
    s'.sessions.length = s.sessions.length → s'.failures = s.failures →
    s'.machine = s.machine → s'.Ready s.attempts →
    (∀ n, s'.Ready n → s.Ready n ∨ n = s.attempts) → Pace cfg s event s'
  /-- An attempt takes its first step and opens a session. -/
  | opens {n : Nat} : event = .begins (.attempt n) → s.Ready n → s.Quiet s' →
    s'.sessions.length = s.sessions.length + 1 → s'.failures = s.failures →
    s'.machine.state ≠ .ready → (∀ m, s'.Ready m → m ≠ n ∧ s.Ready m) → Pace cfg s event s'
  /-- The connection becomes ready. -/
  | readies : event ≠ .started → s.Quiet s' → s'.sessions.length = s.sessions.length →
    (∀ n, s'.Ready n → s.Ready n) → s'.failures = 0 → s.machine.state ≠ .ready →
    s'.machine.state = .ready → Pace cfg s event s'

namespace Pace

theorem calm (calm : s.Calm s') (other : event ≠ .started) : Pace cfg s event s' :=
  .paces (.calm calm) fun same => absurd same other

/-- The tree was read, and the ingestion is set up if all goes well. -/
theorem treeRead (inv : Inv cfg alone vouch none s)
    (here : s.loop.point? (.attempt n) = some (.discovering generation x)) (env : Surroundings)
    (reading : Except Failure (Option Gatt.Tree)) :
    Pace cfg s (.treeRead (.attempt n) reading)
      (s.resumeDiscovering cfg env n generation x reading) := by
  obtain ⟨loop, keeps, ended | ⟨current, tree, settled⟩⟩ :=
    s.resumeDiscovering_cases cfg env n generation x reading
  · rw [ended]
    exact calm ((Calm.keeps keeps).trans (.finish _ _ _)) nofun
  · obtain ⟨-, discovering, -⟩ := (inv.attempts n _ nofun here).of_current_discovering current
    rw [settled]
    obtain ⟨loop, keeps, same | ⟨handles, ⟨-, same⟩ | ⟨ingestions, loop', keeps', -, same⟩⟩⟩ :=
      setUp_cases discovering cfg env x tree
    · have untimed := (Calm.untimed s).trans (.keeps keeps)
      exact calm (Calm.finishWith (by rw [same]; exact { untimed with }) _) nofun
    · have untimed := (Calm.untimed s).trans (.keeps keeps)
      exact calm (Calm.finishWith (by rw [same]; exact { untimed with }) _) nofun
    · have untimed := ((Calm.untimed s).trans (.keeps keeps)).trans (.keeps keeps')
      have ended := untimed.trans (.finish _ (.attempt n) .done)
      simp only [finishWith, same]
      refine .readies nofun { ended with } ended.sessions ended.ready rfl ?_ rfl
      simp [discovering]

theorem start (s : Supervisor δ) (cfg : Settings δ) : Pace cfg s .started (s.start cfg) := by
  rcases Bool.eq_false_or_eq_true s.stopped with stopped | goesOn
  · rw [Supervisor.start, if_pos stopped]
    have set := Retimes.scheduleConnect
      (s := { s with stopped := false, failures := 0 }) rfl cfg.atOnce
    refine .starts rfl stopped ?_ { set with }
    rw [scheduleConnect_eq rfl]
  · rw [Supervisor.start, if_neg (by simp [goesOn])]
    exact .paces (.calm (.refl s)) fun _ => ⟨goesOn, rfl⟩

theorem expired (cfg : Settings δ) (env : Surroundings) (timer : TimerId) :
    Pace cfg s (.expired timer) (s.step cfg env (.expired timer)) := by
  simp only [Supervisor.step]
  split
  · rename_i live
    cases timer with
    | retry r =>
      have gone : s.Calm { s with retryTimer := none, loop := s.loop.expire (.retry r) } :=
        { Calm.wanes (s := s) (.expire s.loop (.retry r)) with }
      show Pace cfg s _ ((s.onLink (·.onLoop (·.expire (.retry r)))).beginAttempt)
      rw [expire_beginAttempt_eq]
      split
      · exact calm gone (by simp)
      · refine .creates rfl live { gone with } rfl rfl rfl ?_ fun n ready => ?_
        · rw [Ready, Loop.point?_spawn, if_pos rfl]
        · rw [Ready, Loop.point?_spawn] at ready
          split at ready
          · rename_i same
            exact .inr (TaskId.attempt.inj same)
          · exact .inl ready
    | discovery n g => exact calm (.discoveryExpired s cfg n g) (by simp)
    | tick i number =>
      have went : s.Calm { s with loop := s.loop.expire (.tick i number) } :=
        .keeps (.expire s.loop _ rfl)
      exact calm (went.trans (.works (Link.tick_works _ cfg i))) (by simp)
  · exact calm (.refl s) (by simp)

theorem startAttempt (inv : Inv cfg alone vouch none s) (ready : s.Ready n)
    (env : Surroundings) : Pace cfg s (.begins (.attempt n)) (s.startAttempt cfg env n) := by
  have disconnected := (inv.eager_of_ready ready).1
  have entered : s.Calm { s with machine := s.machine.enter .connecting none } :=
    { Calm.refl s with up := nofun }
  obtain ⟨loop, keeps, ⟨-, refused⟩ | ⟨-, opened⟩⟩ := startAttempt_cases disconnected cfg env n
  · rw [refused]
    have connecting := entered.trans (.keeps (s := { s with
      machine := s.machine.enter .connecting none }) keeps)
    exact .paces ((Paces.after connecting (.failAttempt _ cfg none)).finishWith _) nofun
  · rw [opened]
    have connecting := entered.trans (.keeps (s := { s with
      machine := s.machine.enter .connecting none }) keeps)
    refine .opens rfl ready { connecting with } ?_ rfl nofun fun m here => ?_
    · exact List.length_append
    · by_cases same : m = n
      · subst same
        rw [Ready, point?_await] at here
        cases here
      · rw [Ready, point?_await_of_ne _ (by simpa using same)] at here
        exact ⟨same, connecting.ready m here⟩

theorem begun (inv : Inv cfg alone vouch none s) (env : Surroundings) {task : TaskId}
    {point : Point} (here : s.loop.point? task = some point) :
    Pace cfg s (.begins task) (s.handleBegin cfg env task point) := by
  unfold Supervisor.handleBegin
  split
  · exact startAttempt inv here env
  · exact .paces (.startForced s cfg env _ _ _) nofun
  · exact calm (.startShutdown s cfg env _) nofun
  · exact calm (.works (Link.beginSubscription_works _ cfg _ _ _ _ _)) nofun
  · exact calm (.works (Link.beginRead_works _ cfg env _ _ _ _ _)) nofun
  · exact calm (.refl s) nofun

theorem resumed (inv : Inv cfg alone vouch none s) (env : Surroundings) {task : TaskId}
    (ending : Ending) {point : Point} (here : s.loop.point? task = some point) :
    Pace cfg s (.resumed task ending) (s.handleResume cfg env ending task point) := by
  unfold Supervisor.handleResume
  split
  · exact .paces (.resumeConnecting inv (.inl here) env ending) nofun
  · exact .paces (.resumePairing inv (.inr here) env ending) nofun
  · exact calm (.resumeDiscarding s cfg _ _ ending) nofun
  · exact .paces (.resumeForced s cfg env _ _ ending) nofun
  · exact calm (.resumeShutdown s cfg env _ ending) nofun
  · exact calm (.works (Link.resumeSubscription_works _ cfg _ _ _ _ ending)) nofun
  · exact calm (.works (Link.resumeRead_works _ cfg env _ _ _ _ ending)) nofun
  · exact calm (.works (Link.resumeSubscription_works _ cfg _ _ _ _ .cancelled)) nofun
  · exact calm (.works (Link.resumeRead_works _ cfg env _ _ _ none .cancelled)) nofun
  · exact calm (.finish s _ .cancelled) nofun
  · split
    · exact calm (.finish s _ .cancelled) nofun
    · exact calm (.refl s) nofun
  · exact calm (.refl s) nofun

/-- Every lawful callback does one of these things. -/
theorem step (inv : Inv cfg alone vouch none s) (lawful : Lawful env event) :
    Pace cfg s event (s.step cfg env event) := by
  cases event with
  | expired timer => exact expired cfg env timer
  | begins task =>
    cases here : s.loop.point? task with
    | none =>
      simp only [Supervisor.step, here]
      exact calm (.refl s) (by simp)
    | some point =>
      rw [step_begins here]
      exact begun inv env here
  | resumed task ending =>
    cases here : s.loop.point? task with
    | none =>
      simp only [Supervisor.step, here]
      exact calm (.refl s) (by simp)
    | some point =>
      rw [step_resumed here]
      exact resumed inv env ending here
  | treeRead task reading =>
    unfold Supervisor.step
    simp only
    split
    · exact treeRead inv ‹_› env reading
    · exact calm (.refl s) (by simp)
  | linkLost generation => exact .paces (.report (.connectionLost s cfg env generation)) (by simp)
  | notified i handle payload =>
    have notified := Link.notified_works s.toLink cfg i handle payload lawful.calm
    exact calm ((Calm.works notified).trans (.journals (.report (.refl _)))) (by simp)
  | started => exact start s cfg
  | shutdownAsked =>
    refine calm ?_ (by simp)
    exact { Calm.moves (s := s) (.spawn s.loop (.shutdown s.shutdowns) .shutdownStart)
      (fun _ due => due) (by simp) with }
  | transitionAsked target => exact absurd rfl (lawful.unasked target)

end Pace

end Supervisor

end SensorLink
