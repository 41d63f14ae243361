/-
# Nothing is left lying about

Sessions and timers are only dropped by their owners: the session in charge is
the only one that holds its client, and the timers that are live are the ones
that the supervisor remembers.  `Tidy` states this between two callbacks,
together with what the tasks that close a session by force rely on, and every
lawful callback preserves it.

A shutdown that waits has asked the session in charge to disconnect.  That needs
one promise more, that nobody starts the supervisor meanwhile, so `Tidy` says it
only of the shutdowns that are `watched`.
-/

import SensorLink.Proofs.Supervisor.Upkeep

namespace SensorLink

open Gatt (Ending)
open Link (Effect Loop Point Settings Surroundings TaskId TimerId Works)
open Sensor (Kind)

namespace Supervisor

variable {δ : Type}

/-- A session was asked to disconnect. -/
def Asked (s : Supervisor δ) (x : Nat) : Prop :=
  ∃ task, .request task x .disconnect ∈ s.loop.tape

/-- What a forced disconnect relies on.  While its generation is current, no other session than
its own is in charge, and once it waits this session was asked to disconnect. -/
def Forces (s : Supervisor δ) : Point → Prop
  | .forcedStart session generation => generation ≤ s.machine.generation ∧
      (generation = s.machine.generation → ∀ x, s.session = some x → session = some x)
  | .forcedClosing generation => generation ≤ s.machine.generation ∧
      (generation = s.machine.generation → ∀ x, s.session = some x → s.Asked x)
  | _ => True

/-- Who holds a client, and which timers are live. -/
structure Tidy (watched : Nat → Prop) (s : Supervisor δ) : Prop where
  /-- Only the session in charge holds its client. -/
  spent : ∀ x, s.isReleased x = false → s.session = some x
  /-- The session in charge was opened in the current generation. -/
  own : ∀ x, s.session = some x →
    ∃ entry, s.sessions[x]? = some entry ∧ entry.generation = s.machine.generation
  /-- A stopped supervisor waits for no retry. -/
  quiet : s.stopped = true → s.retryTimer = none
  /-- The discovery timer is the only one, and is set only during discovery. -/
  timed : ∀ n g, .discovery n g ∈ s.loop.timers → s.discoveryTimer = some (.discovery n g)
  untimed : s.machine.state ≠ .discovering → s.discoveryTimer = none
  forced : ∀ n point, s.loop.point? (.forcedDisconnect n) = some point → s.Forces point
  /-- A watched shutdown that waits has stopped the supervisor and asked the session in charge to
  disconnect. -/
  closing : ∀ n, watched n → s.loop.point? (.shutdown n) = some .shutdownClosing →
    s.stopped = true ∧ ∀ x, s.session = some x → s.Asked x

variable {cfg : Settings δ} {alone : Prop} {watched : Nat → Prop}
  {vouch : Nat → Nat → Kind → Float → Prop} {s s' : Supervisor δ}
  {n x generation session : Nat} {loop : Loop δ}

theorem Asked.mono (asked : s.Asked x) (tape : s.loop.tape ⊆ s'.loop.tape) : s'.Asked x :=
  asked.imp fun _ mem => tape mem

theorem asked_await (s : Supervisor δ) (task : TaskId) (x : Nat) (point : Point) :
    (s.await task x .disconnect point).Asked x :=
  ⟨task, List.mem_append_right _ (List.mem_singleton_self _)⟩

/-- What a forced disconnect relies on outlasts a generation, and the end of the session in
charge. -/
theorem Forces.mono {point : Point} (forces : s.Forces point)
    (later : s.machine.generation ≤ s'.machine.generation)
    (session : ∀ x, s'.session = some x → s.machine.generation = s'.machine.generation →
      s.session = some x)
    (tape : s.loop.tape ⊆ s'.loop.tape) : s'.Forces point := by
  cases point with
  | forcedStart own generation =>
    refine ⟨Nat.le_trans forces.1 later, fun current x charge => ?_⟩
    have same : s.machine.generation = s'.machine.generation :=
      Nat.le_antisymm later (current ▸ forces.1)
    exact forces.2 (current.trans same.symm) x (session x charge same)
  | forcedClosing generation =>
    refine ⟨Nat.le_trans forces.1 later, fun current x charge => ?_⟩
    have same : s.machine.generation = s'.machine.generation :=
      Nat.le_antisymm later (current ▸ forces.1)
    exact (forces.2 (current.trans same.symm) x (session x charge same)).mono tape
  | _ => trivial

namespace Tidy

/-- Only the loop changes: no discovery timer is new, and what waits to close a session by force
or in a shutdown either waited there before or may do so. -/
theorem onLoop (tidy : Tidy watched s)
    (timers : ∀ n g, .discovery n g ∈ loop.timers → .discovery n g ∈ s.loop.timers)
    (tape : s.loop.tape ⊆ loop.tape)
    (forced : ∀ n point, loop.point? (.forcedDisconnect n) = some point →
      s.loop.point? (.forcedDisconnect n) = some point ∨
        ({ s with loop } : Supervisor δ).Forces point)
    (closing : ∀ n, loop.point? (.shutdown n) = some .shutdownClosing →
      s.loop.point? (.shutdown n) = some .shutdownClosing ∨
        s.stopped = true ∧ ∀ x, s.session = some x → ({ s with loop } : Supervisor δ).Asked x) :
    Tidy watched { s with loop } :=
  { tidy with
    timed := fun n g live => tidy.timed n g (timers n g live)
    forced := by
      intro n point here
      rcases forced n point here with before | forces
      · exact (tidy.forced n point before).mono (Nat.le_refl _) (fun _ charge _ => charge) tape
      · exact forces
    closing := by
      intro n watch here
      rcases closing n here with before | closes
      · obtain ⟨stopped, asked⟩ := tidy.closing n watch before
        exact ⟨stopped, fun x charge => (asked x charge).mono tape⟩
      · exact closes }

/-- Nothing new steers. -/
theorem fade {news : List Link.Notice} (tidy : Tidy watched s) (wanes : s.loop.Wanes news loop) :
    Tidy watched { s with loop } := by
  refine tidy.onLoop (fun n g => wanes.timers _ rfl) wanes.tape (fun n point here => ?_)
    fun n here => ?_
  · rcases wanes.points _ _ rfl here with before | ⟨rfl, -⟩
    · exact .inl before
    · exact .inr trivial
  · rcases wanes.points _ _ rfl here with before | ⟨absurdity, -⟩
    · exact .inl before
    · cases absurdity

theorem keeps {news : List Link.Notice} (tidy : Tidy watched s) (keeps : s.loop.Keeps news loop) :
    Tidy watched { s with loop } :=
  tidy.fade keeps.wanes

theorem journals (tidy : Tidy watched s) (journals : s.Journals s') : Tidy watched s' := by
  obtain ⟨loop, keeps, rfl⟩ := journals
  exact tidy.keeps keeps

/-- Other shutdowns are watched from now on, none of which waits. -/
theorem watch {watched' : Nat → Prop} (tidy : Tidy watched s)
    (begun : ∀ n, watched' n → s.loop.point? (.shutdown n) ≠ some .shutdownClosing) :
    Tidy watched' s :=
  { tidy with closing := fun n watch here => absurd here (begun n watch) }

theorem finish (tidy : Tidy watched s) (task : TaskId) (how : Link.Finish) :
    Tidy watched (s.finish task how) :=
  tidy.fade (Loop.Wanes.finish s.loop task how)

/-- A task goes on that neither closes a session by force nor waits in a shutdown. -/
theorem moves {task : TaskId} (tidy : Tidy watched s) (moves : s.loop.Moves task loop)
    (timers : ∀ n g, .discovery n g ∈ loop.timers → .discovery n g ∈ s.loop.timers)
    (unforced : ∀ n, task ≠ .forcedDisconnect n)
    (begun : ∀ n, task = .shutdown n → loop.point? task ≠ some .shutdownClosing) :
    Tidy watched { s with loop } := by
  refine tidy.onLoop timers moves.tape (fun n point here => ?_) fun n here => ?_
  · exact .inl ((moves.points _ rfl (Ne.symm (unforced n))).symm.trans here)
  · by_cases same : .shutdown n = task
    · exact absurd (same ▸ here) (begun n same.symm)
    · exact .inl ((moves.points _ rfl same).symm.trans here)

/-- An attempt goes on. -/
theorem movesAttempt (tidy : Tidy watched s) (moves : s.loop.Moves (.attempt n) loop)
    (timers : ∀ n g, .discovery n g ∈ loop.timers → .discovery n g ∈ s.loop.timers) :
    Tidy watched { s with loop } :=
  tidy.moves moves timers nofun nofun

/-- A task waits for a call, and may do so if it closes a session by force or in a shutdown. -/
theorem await (tidy : Tidy watched s) (task : TaskId) (session : Nat) (call : Gatt.Call)
    {point : Point}
    (forces : ∀ n, task = .forcedDisconnect n → (s.await task session call point).Forces point)
    (closes : ∀ n, task = .shutdown n → point = .shutdownClosing →
      s.stopped = true ∧ ∀ x, s.session = some x → (s.await task session call point).Asked x) :
    Tidy watched (s.await task session call point) := by
  have moves := s.moves_await task session call point
  have elsewhere (other : TaskId) (different : other ≠ task) :=
    s.point?_await_of_ne different session call point
  refine tidy.onLoop (fun _ _ live => live) moves.tape (fun n place here => ?_) fun n here => ?_
  · by_cases same : .forcedDisconnect n = task
    · subst same
      obtain rfl : point = place := Option.some.inj ((s.point?_await _ _ _ _).symm.trans here)
      exact .inr (forces n rfl)
    · exact .inl ((elsewhere _ same).symm.trans here)
  · by_cases same : .shutdown n = task
    · subst same
      exact .inr (closes n rfl (Option.some.inj ((s.point?_await _ _ _ _).symm.trans here)))
    · exact .inl ((elsewhere _ same).symm.trans here)

theorem works (tidy : Tidy watched s) {i : Nat} {taken : List Link.Taken} {l : Link δ}
    (works : Works i s.toLink taken l) : Tidy watched { s with toLink := l } := by
  obtain ⟨machine, store, sessions, ingestions, loop⟩ := l
  obtain rfl : machine = s.machine := works.machine
  obtain rfl : sessions = s.sessions := works.sessions
  exact { tidy.keeps works.loop with }

theorem report {outcome : Supervisor δ × Option Failure} (tidy : Tidy watched outcome.1) :
    Tidy watched (report outcome) :=
  tidy.journals (Journals.report (.refl _))

/-- Once the session in charge gives its client up, no session holds one. -/
theorem isReleased_torn (tidy : Tidy watched s) (x : Nat) : s.torn.isReleased x = true := by
  have given (y : Nat) (charge : s.session = some y) :
      s.torn.isReleased x = (decide (y = x) || s.isReleased x) := by
    rw [← isReleased_release, Link.isReleased, Supervisor.torn, charge]
    rfl
  by_contra holds
  rw [Bool.not_eq_true] at holds
  cases charge : s.session with
  | none =>
    have same : s.torn.isReleased x = s.isReleased x := by
      rw [Link.isReleased, Supervisor.torn, charge]
      rfl
    cases charge.symm.trans (tidy.spent x (same ▸ holds))
  | some y =>
    rw [given y charge, Bool.or_eq_false_iff, decide_eq_false_iff_not] at holds
    exact holds.1 (Option.some.inj (charge.symm.trans (tidy.spent x holds.2)))

/-- A connection is torn down. -/
theorem torn {news : List Link.Notice} (tidy : Tidy watched s)
    (wanes : s.untimedLoop.Wanes news loop) : Tidy watched { s.torn with loop } := by
  have earlier : s.loop.Wanes news loop := wanes.before s.wanes_untimedLoop
  have faded := tidy.fade earlier
  exact {
    spent := fun x holds => absurd ((tidy.isReleased_torn x).symm.trans holds) nofun
    own := nofun
    quiet := tidy.quiet
    timed := fun n g live =>
      absurd (wanes.timers _ rfl live) (s.not_mem_untimedLoop (tidy.timed n g))
    untimed := fun _ => rfl
    forced := fun n point here => (faded.forced n point here).mono
      (Connection.Machine.generation_le_dropped s.machine) nofun (List.Subset.refl _)
    closing := fun n watch here => ⟨(faded.closing n watch here).1, nofun⟩ }

theorem teardown (tidy : Tidy watched s) (cfg : Settings δ) (env : Surroundings) :
    Tidy watched (s.teardown cfg env) := by
  obtain ⟨loop, wanes, torn⟩ := s.teardown_untimed cfg env
  rw [torn]
  exact tidy.torn wanes

/-- A session gives its client up, and is forgotten if it is in charge. -/
theorem giveUp (tidy : Tidy watched s) (x : Nat) :
    Tidy watched ((s.onLink (·.release x)).forget x) := by
  have released := s.isReleased_release x
  rw [release_forget_eq]
  have charge {y : Nat} (here : (if s.session = some x then none else s.session) = some y) :
      s.session = some y ∧ x ≠ y := by
    split at here
    · cases here
    · refine ⟨here, ?_⟩
      rintro rfl
      contradiction
  exact { tidy with
    spent := by
      intro y holds
      have holds := (released y).symm.trans holds
      rw [Bool.or_eq_false_iff, decide_eq_false_iff_not] at holds
      have own := tidy.spent y holds.2
      simp [own, Ne.symm holds.1]
    own := by
      intro y here
      obtain ⟨own, other⟩ := charge here
      obtain ⟨entry, known, current⟩ := tidy.own y own
      exact ⟨entry, by simpa [other] using known, current⟩
    forced := fun n point here => (tidy.forced n point here).mono (Nat.le_refl _)
      (fun y here _ => (charge here).1) (List.Subset.refl _)
    closing := by
      intro n watch here
      obtain ⟨stopped, asked⟩ := tidy.closing n watch here
      exact ⟨stopped, fun y here => asked y (charge here).1⟩ }

/-- The state is left for disconnected while no session is in charge. -/
theorem dropState (tidy : Tidy watched s) (cfg : Settings δ)
    (down : s.machine.state ≠ .discovering) (idle : s.session = none) :
    Tidy watched (s.dropState cfg) := by
  obtain ⟨loop, keeps, left⟩ := s.dropState_eq cfg
  rw [left]
  have kept := tidy.keeps keeps
  exact { kept with
    own := fun x charge => nomatch idle.symm.trans charge
    untimed := fun _ => tidy.untimed down
    forced := fun n point here => (kept.forced n point here).mono
      (Connection.Machine.generation_le_dropped s.machine) (fun _ charge _ => charge)
      (List.Subset.refl _) }

/-- The next attempt is scheduled. -/
theorem scheduleRetry (tidy : Tidy watched s) (cfg : Settings δ) :
    Tidy watched (s.scheduleRetry cfg).1 := by
  obtain ⟨failures, retryTimer, retries, loop, scheduled, -, still, moves, timers⟩ :=
    s.scheduleRetry_eq cfg
  have moved : Tidy watched { s with loop } :=
    tidy.movesAttempt (n := 0) (moves _) timers
  rw [scheduled]
  exact { moved with quiet := fun stopped => (still stopped).trans (tidy.quiet stopped) }

/-- An attempt is given up while no session but its own is in charge. -/
theorem failAttempt (tidy : Tidy watched s) (cfg : Settings δ)
    (down : s.machine.state = .connecting ∨ s.machine.state = .disconnected)
    (own : s.session = none ∨ s.session = some x) :
    Tidy watched (s.failAttempt cfg (some x)).1 := by
  have given := tidy.giveUp x
  have idle : ((s.onLink (·.release x)).forget x).session = none := by
    rw [release_forget_eq]
    rcases own with own | own <;> simp [own]
  have apart : ((s.onLink (·.release x)).forget x).machine.state ≠ .discovering := by
    rw [release_forget_eq]
    rcases down with down | down <;> simp [down]
  exact (given.dropState cfg apart idle).scheduleRetry cfg

/-- The end of a connection is reported. -/
theorem connectionLost (tidy : Tidy watched s) (cfg : Settings δ) (env : Surroundings)
    (generation : Int) : Tidy watched (s.connectionLost cfg env generation).1 := by
  obtain ⟨loop, keeps, ignored | ⟨-, -, lost⟩⟩ := s.connectionLost_cases cfg env generation
  · rw [ignored]
    exact tidy.keeps keeps
  · rw [lost]
    exact ((tidy.keeps keeps).teardown cfg env).scheduleRetry cfg

/-- The limit of discovery is reached, and the session in charge is to be closed by force. -/
theorem discoveryExpired (tidy : Tidy watched s) (cfg : Settings δ) {n generation : Nat}
    (live : .discovery n generation ∈ s.loop.timers) :
    Tidy watched ((s.onLink (·.onLoop (·.expire (.discovery n generation)))).discoveryExpired cfg n
      generation) := by
  have known := tidy.timed n generation live
  have faded := tidy.fade (.expire s.loop (.discovery n generation))
  have gone : Tidy watched { s with
      discoveryTimer := none, loop := s.loop.expire (.discovery n generation) } :=
    { faded with
      timed := by
        intro m g still
        obtain ⟨before, other⟩ := (Loop.mem_timers_expire _ _ _).mp still
        exact absurd (Option.some.inj ((tidy.timed m g before).symm.trans known)) other
      untimed := fun _ => rfl }
  rw [Supervisor.discoveryExpired]
  simp only
  split
  · rename_i due
    obtain ⟨current, -⟩ : generation = s.machine.generation ∧ s.machine.state = .discovering := by
      simpa [onLink, Link.onLoop] using due
    obtain ⟨loop, keeps, said⟩ := Journals.say { s with
      discoveryTimer := none, loop := s.loop.expire (.discovery n generation) } cfg .warning
      ("Discovery on " ++ cfg.address ++ " made no progress in " ++
        (cfg.discoveryLimit.elim "" cfg.showDelay) ++ "s; dropping connection")
    have noted := gone.keeps keeps
    have spawned : Tidy watched { s with
        discoveryTimer := none
        loop := loop.spawn (.forcedDisconnect n) (.forcedStart s.session generation) } := by
      refine noted.onLoop (fun _ _ live => live) (by simp) (fun m point here => ?_)
        fun m here => .inl (by simpa using here)
      rw [Loop.point?_spawn] at here
      split at here
      · cases here
        exact .inr ⟨Nat.le_of_eq current, fun _ x charge => charge⟩
      · exact .inl here
    exact said ▸ spawned
  · exact gone

theorem finishForced (tidy : Tidy watched s) (cfg : Settings δ) (env : Surroundings)
    (n generation : Nat) : Tidy watched (s.finishForced cfg env n generation) :=
  (tidy.connectionLost cfg env generation).finish (.forcedDisconnect n) _

theorem forcedFailed (tidy : Tidy watched s) (cfg : Settings δ) (env : Surroundings)
    (n generation : Nat) (f : Failure) :
    Tidy watched (s.forcedFailed cfg env n generation f) := by
  rw [Supervisor.forcedFailed]
  split
  · exact (tidy.journals (.say s cfg _ _)).finishForced cfg env n generation
  · exact tidy.finish _ _

theorem startForced (tidy : Tidy watched s) (cfg : Settings δ) (env : Surroundings)
    {session : Option Nat}
    (here : s.loop.point? (.forcedDisconnect n) = some (.forcedStart session generation)) :
    Tidy watched (s.startForced cfg env n session generation) := by
  obtain ⟨past, own⟩ := tidy.forced n _ here
  unfold Supervisor.startForced
  split
  · exact tidy.finishForced cfg env n generation
  · rename_i x
    split
    · exact tidy.forcedFailed cfg env n generation _
    · refine tidy.await (.forcedDisconnect n) x .disconnect ?_ nofun
      rintro _ ⟨⟩
      refine ⟨past, fun current y charge => ?_⟩
      obtain rfl : x = y := Option.some.inj (own current y charge)
      exact s.asked_await _ x _

theorem resumeForced (tidy : Tidy watched s) (cfg : Settings δ) (env : Surroundings)
    (n generation : Nat) (ending : Ending) :
    Tidy watched (s.resumeForced cfg env n generation ending) := by
  rw [Supervisor.resumeForced]
  split
  · exact tidy.finish _ _
  · exact tidy.finishForced cfg env n generation
  · exact tidy.forcedFailed cfg env n generation _

/-- A start, while no shutdown is pending that is watched. -/
theorem start (tidy : Tidy watched s) (cfg : Settings δ)
    (promise : ∀ n, watched n → ¬s.loop.isLive (.shutdown n) = true) :
    Tidy watched (s.start cfg) := by
  rw [Supervisor.start]
  split
  · rw [scheduleConnect_eq rfl]
    have moved : Tidy watched { s with
        loop := s.loop.replace s.retryTimer (.retry s.retries) (.delay cfg.atOnce) } := by
      refine tidy.movesAttempt (n := 0) (.replace _ _ _ _ _) fun n g live => ?_
      rcases (Loop.mem_timers_replace _ _ _ _ _).mp live with retry | ⟨live, -⟩
      · cases retry
      · exact live
    exact { moved with
      quiet := by rintro ⟨⟩
      closing := by
        intro n watch here
        rw [Loop.point?_replace] at here
        exact absurd (by rw [Loop.isLive, here]; rfl) (promise n watch) }
  · exact tidy

theorem requestShutdown (tidy : Tidy watched s) : Tidy watched s.requestShutdown := by
  have spawned : Tidy watched (s.onLink (·.onLoop (·.spawn (.shutdown s.shutdowns)
      .shutdownStart))) := by
    refine tidy.moves (.spawn _ _ _) (fun _ _ live => live) nofun ?_
    rintro _ ⟨⟩
    simp
  exact { spawned with }

theorem stopAttempts (tidy : Tidy watched s) : Tidy watched s.stopAttempts := by
  have faded := tidy.fade s.wanes_stoppedLoop
  rw [stopAttempts_eq]
  exact { faded with
    quiet := fun _ => rfl
    closing := fun n watch here => ⟨rfl, (faded.closing n watch here).2⟩ }

theorem finishShutdown (tidy : Tidy watched s) (cfg : Settings δ) (env : Surroundings) (n : Nat) :
    Tidy watched (s.finishShutdown cfg env n) :=
  ((tidy.teardown cfg env).journals (.say _ cfg _ _)).finish (.shutdown n) .done

theorem startShutdown (tidy : Tidy watched s) (cfg : Settings δ) (env : Surroundings) (n : Nat) :
    Tidy watched (s.startShutdown cfg env n) := by
  obtain ⟨loop, keeps, ⟨-, finished⟩ | ⟨x, charge, waits⟩⟩ := s.startShutdown_cases cfg env n
  · rw [finished]
    exact (tidy.stopAttempts.keeps keeps).finishShutdown cfg env n
  · rw [waits]
    refine (tidy.stopAttempts.keeps keeps).await (.shutdown n) x .disconnect nofun ?_
    rintro _ ⟨⟩ -
    have stopped : s.stopAttempts.stopped = true ∧ s.stopAttempts.session = some x := by
      rw [stopAttempts_eq]
      exact ⟨rfl, charge⟩
    refine ⟨stopped.1, fun y here => ?_⟩
    obtain rfl : x = y := Option.some.inj (stopped.2.symm.trans here)
    exact asked_await _ _ x _

theorem resumeShutdown (tidy : Tidy watched s) (cfg : Settings δ) (env : Surroundings) (n : Nat)
    (ending : Ending) : Tidy watched (s.resumeShutdown cfg env n ending) := by
  obtain ⟨loop, keeps, ⟨-, finished⟩ | ⟨-, how, -, aborted⟩⟩ :=
    s.resumeShutdown_cases cfg env n ending
  · rw [finished]
    exact (tidy.keeps keeps).finishShutdown cfg env n
  · rw [aborted]
    exact tidy.finish _ how

/-! ## Attempts -/

theorem beginAttempt (tidy : Tidy watched s) (timer : TimerId) :
    Tidy watched (s.onLink (·.onLoop (·.expire timer))).beginAttempt := by
  have gone : Tidy watched { s with retryTimer := none, loop := s.loop.expire timer } :=
    { tidy.fade (.expire s.loop timer) with quiet := fun _ => rfl }
  rw [expire_beginAttempt_eq]
  split
  · exact gone
  · have spawned : Tidy watched { s with
        retryTimer := none
        loop := (s.loop.expire timer).spawn (.attempt s.attempts) .attemptStart } :=
      gone.movesAttempt (.spawn _ _ _) fun _ _ live => live
    exact { spawned with }

/-- A supervisor that goes on and has no session in charge opens one in the current
generation. -/
theorem opened (tidy : Tidy watched s) (idle : s.session = none) (goesOn : s.stopped = false)
    (entry : Link.Session) (current : entry.generation = s.machine.generation)
    (fresh : ∀ n point, s.loop.point? (.forcedDisconnect n) = some point →
      ({ s with session := some s.sessions.length } : Supervisor δ).Forces point) :
    Tidy watched
      { s with sessions := s.sessions ++ [entry], session := some s.sessions.length } :=
  { tidy with
    spent := by
      intro x holds
      rcases Nat.lt_trichotomy x s.sessions.length with before | rfl | beyond
      · rw [Link.isReleased, List.getElem?_append_left before] at holds
        cases idle.symm.trans (tidy.spent x holds)
      · rfl
      · have unknown : (s.sessions ++ [entry])[x]? = none :=
          List.getElem?_eq_none (by simpa using Nat.succ_le_of_lt beyond)
        rw [Link.isReleased, unknown] at holds
        cases holds
    own := by
      rintro _ ⟨⟩
      exact ⟨entry, List.getElem?_concat_length, current⟩
    forced := fun n point here => fresh n point here
    closing := fun n watch here =>
      absurd ((tidy.closing n watch here).1.symm.trans goesOn) Bool.noConfusion }

/-- The first step of an attempt starts a generation, and opens a session in it. -/
theorem startAttempt (tidy : Tidy watched s) (inv : Inv cfg alone vouch none s)
    (env : Surroundings) (ready : s.Ready n) : Tidy watched (s.startAttempt cfg env n) := by
  obtain ⟨disconnected, -, goesOn, -⟩ := inv.eager_of_ready ready
  have idle := (inv.idle disconnected).1
  have connecting : Tidy watched { s with machine := s.machine.enter .connecting none } :=
    { tidy with
      own := fun x charge => nomatch idle.symm.trans charge
      untimed := fun _ => tidy.untimed (by simp [disconnected])
      forced := fun m point here => (tidy.forced m point here).mono (Nat.le_succ _)
        (fun _ charge _ => charge) (List.Subset.refl _) }
  obtain ⟨loop, keeps, ⟨-, given⟩ | ⟨-, waits⟩⟩ := startAttempt_cases disconnected cfg env n
  · rw [given]
    exact (((connecting.keeps keeps).dropState cfg nofun idle).scheduleRetry cfg).finish _ _
  · rw [waits]
    refine await ?_ (.attempt n) _ .connect nofun nofun
    refine (connecting.keeps keeps).opened idle goesOn ⟨_, false⟩ rfl fun m point here => ?_
    have before : s.loop.point? (.forcedDisconnect m) = some point :=
      (keeps.points _ rfl).symm.trans here
    exact (tidy.forced m point before).mono (Nat.le_succ _)
      (fun _ _ same => absurd same (Nat.succ_ne_self _).symm) keeps.tape

/-- Connecting or pairing failed while no other session was in charge. -/
theorem connectFailed (tidy : Tidy watched s)
    (down : s.machine.state = .connecting ∨ s.machine.state = .disconnected)
    (own : s.session = none ∨ s.session = some x) (f : Failure) :
    Tidy watched (s.connectFailed cfg n x f) := by
  obtain ⟨loop, keeps, given⟩ := s.connectFailed_eq cfg n x f
  rw [given]
  exact ((tidy.keeps keeps).failAttempt cfg down own).finish _ _

theorem finishDiscard (tidy : Tidy watched s) (n x : Nat) : Tidy watched (s.finishDiscard n x) :=
  (tidy.giveUp x).finish _ .done

theorem discard (tidy : Tidy watched s) (cfg : Settings δ) (env : Surroundings) (n x : Nat) :
    Tidy watched (s.discard cfg env n x) := by
  obtain ⟨loop, keeps, waits | dropped⟩ := s.discard_cases cfg env n x
  · rw [waits]
    exact (tidy.keeps keeps).await (.attempt n) x .disconnect nofun nofun
  · rw [dropped]
    exact (tidy.keeps keeps).finishDiscard n x

theorem resumeDiscarding (tidy : Tidy watched s) (cfg : Settings δ) (n x : Nat)
    (ending : Ending) : Tidy watched (s.resumeDiscarding cfg n x ending) := by
  obtain ⟨loop, keeps, dropped | ⟨how, ended⟩⟩ := s.resumeDiscarding_cases cfg n x ending
  · rw [dropped]
    exact (tidy.keeps keeps).finishDiscard n x
  · rw [ended]
    exact tidy.finish _ how

/-- Discovery begins, with its timer set if it is limited. -/
theorem startDiscovery (tidy : Tidy watched s) (cfg : Settings δ)
    (discovering : s.machine.state = .discovering) (unset : s.discoveryTimer = none) :
    Tidy watched (s.startDiscovery cfg n generation session) := by
  have asks {s : Supervisor δ} (tidy : Tidy watched s) :
      Tidy watched (s.onLink (·.onLoop fun loop =>
        (loop.suspend (.attempt n) (.discovering generation session)).emit
          (.requestTree (.attempt n) session))) :=
    tidy.movesAttempt (n := n) ((Loop.Moves.suspend s.loop (.attempt n) _).trans
      (.ofKeeps (.silent _ (.requestTree (.attempt n) session) rfl nofun) _)) fun _ _ live => live
  rw [Supervisor.startDiscovery]
  split
  · rename_i limit _
    have limited : Tidy watched { s with
        loop := s.loop.schedule (.discovery n generation) (.delay limit)
        discoveryTimer := some (.discovery n generation) } := by
      have moves := Loop.Moves.schedule s.loop (.attempt n) (.discovery n generation)
        (.delay limit)
      exact { tidy with
        timed := by
          intro m g live
          rw [Loop.timers_schedule, List.mem_cons] at live
          rcases live with same | live
          · rw [same]
          · cases unset.symm.trans (tidy.timed m g live)
        untimed := fun elsewhere => absurd discovering elsewhere
        forced := fun m point here => (tidy.forced m point here).mono (Nat.le_refl _)
          (fun _ charge _ => charge) moves.tape
        closing := by
          intro m watch here
          obtain ⟨stopped, asked⟩ := tidy.closing m watch here
          exact ⟨stopped, fun x charge => (asked x charge).mono moves.tape⟩ }
    exact asks limited
  · exact asks tidy

/-- The link of an attempt is up. -/
theorem linkUp (tidy : Tidy watched s) (inv : Inv cfg alone vouch none s)
    (places : s.Places n generation x) (env : Surroundings) :
    Tidy watched (s.linkUp cfg env n generation x) := by
  by_cases current : generation = s.machine.generation
  · obtain ⟨-, connecting, own⟩ := (places.fits inv).of_current_connecting current
    subst current
    have unset : s.discoveryTimer = none := tidy.untimed (by simp [connecting])
    obtain ⟨loop, keeps, ⟨-, up⟩ | ⟨-, given⟩⟩ := linkUp_cases connecting cfg env n x
    · rw [up]
      have entered : Tidy watched
          { s with machine := s.machine.enter .discovering (some x), loop } :=
        { tidy.keeps keeps with untimed := fun _ => unset }
      exact entered.startDiscovery cfg rfl unset
    · rw [given]
      exact ((tidy.keeps keeps).failAttempt cfg (.inl connecting) (.inr own)).finish _ _
  · rw [linkUp_of_stale current]
    exact tidy.discard cfg env n x

theorem transportUp (tidy : Tidy watched s) (inv : Inv cfg alone vouch none s)
    (places : s.Places n generation x) (env : Surroundings) :
    Tidy watched (s.transportUp cfg env n generation x) := by
  obtain ⟨loop, keeps, up | waits⟩ := s.transportUp_cases cfg env n generation x
  · rw [up]
    exact tidy.linkUp inv places env
  · rw [waits]
    exact (tidy.keeps keeps).await (.attempt n) x .pair nofun nofun

/-- A call of the latest attempt failed. -/
theorem failed (tidy : Tidy watched s) (inv : Inv cfg alone vouch none s)
    (places : s.Places n generation x) (latest : ¬n + 1 < s.attempts) (f : Failure) :
    Tidy watched (s.connectFailed cfg n x f) := by
  obtain ⟨-, down, own⟩ :=
    (places.fits inv).of_latest_connecting (fun idle => (inv.idle idle).1) latest
  exact tidy.connectFailed down own f

theorem resumeConnecting (tidy : Tidy watched s) (inv : Inv cfg alone vouch none s)
    (places : s.Places n generation x) {ending : Ending}
    (tame : n + 1 < s.attempts → ending.succumbs = true) (env : Surroundings) :
    Tidy watched (s.resumeConnecting cfg env n generation x ending) := by
  rw [Supervisor.resumeConnecting]
  split
  · exact tidy.finish _ _
  · exact tidy.transportUp inv places env
  · exact tidy.failed inv places (fun later => Ending.not_succumbs ‹_› (tame later)) _

theorem resumePairing (tidy : Tidy watched s) (inv : Inv cfg alone vouch none s)
    (places : s.Places n generation x) {ending : Ending}
    (tame : n + 1 < s.attempts → ending.succumbs = true) (env : Surroundings) :
    Tidy watched (s.resumePairing cfg env n generation x ending) := by
  rw [Supervisor.resumePairing]
  split
  · exact tidy.finish _ _
  · exact tidy.linkUp inv places env
  · exact tidy.failed inv places (fun later => Ending.not_succumbs ‹_› (tame later)) _

/-- Setting the ingestion up takes the discovery timer back. -/
theorem setUp (tidy : Tidy watched s) (discovering : s.machine.state = .discovering)
    (env : Surroundings) (tree : Gatt.Tree) : Tidy watched (s.setUp cfg env x tree).1 := by
  obtain ⟨loop, keeps, failed | ⟨handles, ⟨-, failed⟩ | ⟨ingestions, loop', keeps', -, ready⟩⟩⟩ :=
    setUp_cases discovering cfg env x tree
  all_goals
    have untimed : Tidy watched { s with discoveryTimer := none, loop } :=
      { tidy.fade (s.wanes_untimedLoop.after keeps.wanes) with
        timed := fun m g live => absurd ((keeps.timers _ rfl).mp live)
          (s.not_mem_untimedLoop (tidy.timed m g))
        untimed := fun _ => rfl }
  · rw [failed]
    exact untimed
  · rw [failed]
    exact { untimed with }
  · rw [ready]
    exact { untimed.keeps keeps' with untimed := fun _ => rfl }

theorem resumeDiscovering (tidy : Tidy watched s) (inv : Inv cfg alone vouch none s)
    (here : s.loop.point? (.attempt n) = some (.discovering generation x))
    (env : Surroundings) (reading : Except Failure (Option Gatt.Tree)) :
    Tidy watched (s.resumeDiscovering cfg env n generation x reading) := by
  obtain ⟨loop, keeps, ended | ⟨current, tree, settled⟩⟩ :=
    s.resumeDiscovering_cases cfg env n generation x reading
  · rw [ended]
    exact (tidy.keeps keeps).finish _ .done
  · obtain ⟨-, discovering, -⟩ := (inv.attempts n _ nofun here).of_current_discovering current
    rw [settled]
    exact (tidy.setUp discovering env tree).finish _ _

/-! ## Events -/

theorem expired (tidy : Tidy watched s) (env : Surroundings) (timer : TimerId) :
    Tidy watched (s.step cfg env (.expired timer)) := by
  simp only [Supervisor.step]
  split
  · rename_i live
    cases timer with
    | retry r => exact tidy.beginAttempt (.retry r)
    | discovery n generation => exact tidy.discoveryExpired cfg live
    | tick i number =>
      exact (tidy.fade (.expire s.loop (.tick i number))).works (Link.tick_works _ cfg i)
  · exact tidy

theorem handleBegin (tidy : Tidy watched s) (inv : Inv cfg alone vouch none s)
    (env : Surroundings) {task : TaskId} {point : Point}
    (here : s.loop.point? task = some point) :
    Tidy watched (s.handleBegin cfg env task point) := by
  unfold Supervisor.handleBegin
  split
  · exact tidy.startAttempt inv env here
  · exact tidy.startForced cfg env here
  · exact tidy.startShutdown cfg env _
  · exact tidy.works (Link.beginSubscription_works _ cfg _ _ _ _ _)
  · exact tidy.works (Link.beginRead_works _ cfg env _ _ _ _ _)
  · exact tidy

theorem handleResume (tidy : Tidy watched s) (inv : Inv cfg alone vouch none s)
    (env : Surroundings) {task : TaskId} {ending : Ending} {point : Point}
    (obedient : s.Obedient (.resumed task ending)) (here : s.loop.point? task = some point) :
    Tidy watched (s.handleResume cfg env ending task point) := by
  unfold Supervisor.handleResume
  split
  · exact tidy.resumeConnecting inv (.inl here) (inv.tame obedient (.inl here)) env
  · exact tidy.resumePairing inv (.inr here) (inv.tame obedient (.inr here)) env
  · exact tidy.resumeDiscarding cfg _ _ ending
  · exact tidy.resumeForced cfg env _ _ ending
  · exact tidy.resumeShutdown cfg env _ ending
  · exact tidy.works (Link.resumeSubscription_works _ cfg _ _ _ _ ending)
  · exact tidy.works (Link.resumeRead_works _ cfg env _ _ _ _ ending)
  · exact tidy.works (Link.resumeSubscription_works _ cfg _ _ _ _ .cancelled)
  · exact tidy.works (Link.resumeRead_works _ cfg env _ _ _ none .cancelled)
  · exact tidy.finish _ .cancelled
  · split
    · exact tidy.finish _ .cancelled
    · exact tidy
  · exact tidy

/-- Every lawful callback leaves things tidy. -/
theorem step (tidy : Tidy watched s) (inv : Inv cfg alone vouch none s) {env : Surroundings}
    {event : Event} (lawful : Lawful env event) (obedient : s.Obedient event)
    (promise : ∀ n, watched n → s.Patient event) :
    Tidy watched (s.step cfg env event) := by
  cases event with
  | expired timer => exact tidy.expired env timer
  | begins task =>
    cases here : s.loop.point? task with
    | none =>
      simp only [Supervisor.step, here]
      exact tidy
    | some point =>
      rw [step_begins here]
      exact tidy.handleBegin inv env here
  | resumed task ending =>
    cases here : s.loop.point? task with
    | none =>
      simp only [Supervisor.step, here]
      exact tidy
    | some point =>
      rw [step_resumed here]
      exact tidy.handleResume inv env obedient here
  | treeRead task reading =>
    unfold Supervisor.step
    simp only
    split
    · exact tidy.resumeDiscovering inv ‹_› env reading
    · exact tidy
  | linkLost generation => exact (tidy.connectionLost cfg env generation).report
  | notified i handle payload =>
    exact (tidy.works (Link.notified_works s.toLink cfg i handle payload lawful.calm)).report
  | started => exact tidy.start cfg fun n watch => promise n watch rfl n
  | shutdownAsked => exact tidy.requestShutdown
  | transitionAsked target => exact absurd rfl (lawful.unasked target)

theorem fresh : Tidy watched (.fresh : Supervisor δ) where
  spent _ holds := nomatch holds
  own _ charge := nomatch charge
  quiet _ := rfl
  timed _ _ live := nomatch live
  untimed _ := rfl
  forced _ _ here := nomatch here
  closing _ _ here := nomatch here

end Tidy

/-- Things are tidy in every state that a run reaches; if nobody starts the supervisor while a
shutdown is pending, so are the shutdowns that are watched. -/
theorem Run.tidy {past : List (Moment δ)} (run : Run cfg past s)
    (obedient : ∀ m ∈ past, m.Obedient)
    (promise : ∀ n, watched n → ∀ m ∈ past, m.before.Patient m.event) : Tidy watched s := by
  induction run with
  | fresh => exact .fresh
  | step m run lawful ih =>
    simp only [List.forall_mem_append, List.forall_mem_singleton] at obedient promise
    exact (ih obedient.1 fun n watch => (promise n watch).1).step (run.inv obedient.1) lawful
      obedient.2 fun n watch => (promise n watch).2

end Supervisor

end SensorLink
