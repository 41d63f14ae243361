/-
# A supervisor that has come to rest

Once a supervisor is stopped and disconnected, it stays so until it is started
again, whatever is left on its loop: timers go off in vain, attempts that were
superseded close their sessions, and another shutdown finds nothing to do.  A
shutdown that comes to its end brings the supervisor there.
-/

import SensorLink.Proofs.Supervisor.Shutdown

namespace SensorLink

open Gatt (Ending)
open Link (Loop Point Settings Surroundings TaskId TimerId)
open Sensor (Kind)

namespace Supervisor

variable {δ : Type} {cfg : Settings δ} {alone : Prop} {vouch : Nat → Nat → Kind → Float → Prop}
  {s s' : Supervisor δ} {env : Surroundings} {n x generation : Nat}

/-- The supervisor is stopped and disconnected. -/
structure Settled (s : Supervisor δ) : Prop where
  stopped : s.stopped = true
  disconnected : s.machine.state = .disconnected

/-- A stopped supervisor is settled once everything is torn down. -/
theorem settled_finishShutdown (stopped : s.stopped = true) (cfg : Settings δ)
    (env : Surroundings) (n : Nat) : (s.finishShutdown cfg env n).Settled := by
  obtain ⟨loop, -, finished⟩ := s.finishShutdown_eq cfg env n
  rw [finished]
  exact ⟨stopped, s.machine.dropped_state⟩

namespace Settled

theorem onLoop (settled : s.Settled) {loop : Loop δ} : ({ s with loop } : Supervisor δ).Settled :=
  ⟨settled.stopped, settled.disconnected⟩

theorem journals (settled : s.Settled) (journals : s.Journals s') : s'.Settled := by
  obtain ⟨loop, -, rfl⟩ := journals
  exact settled.onLoop

theorem finish (settled : s.Settled) (task : TaskId) (how : Link.Finish) :
    (s.finish task how).Settled :=
  ⟨settled.stopped, settled.disconnected⟩

theorem await (settled : s.Settled) (task : TaskId) (session : Nat) (call : Gatt.Call)
    (point : Point) : (s.await task session call point).Settled :=
  ⟨settled.stopped, settled.disconnected⟩

theorem works (settled : s.Settled) {i : Nat} {taken : List Link.Taken} {l : Link δ}
    (works : Link.Works i s.toLink taken l) : ({ s with toLink := l } : Supervisor δ).Settled :=
  ⟨settled.stopped, by rw [← settled.disconnected, ← works.machine]⟩

theorem scheduleRetry (settled : s.Settled) (cfg : Settings δ) :
    (s.scheduleRetry cfg).1.Settled := by
  obtain ⟨_, _, _, _, scheduled, -⟩ := s.scheduleRetry_eq cfg
  rw [scheduled]
  exact ⟨settled.stopped, settled.disconnected⟩

theorem connectionLost (settled : s.Settled) (cfg : Settings δ) (env : Surroundings)
    (generation : Int) : (s.connectionLost cfg env generation).1.Settled := by
  obtain ⟨loop, -, ignored | ⟨-, up, -⟩⟩ := s.connectionLost_cases cfg env generation
  · rw [ignored]
    exact settled.onLoop
  · simp [settled.disconnected] at up

theorem finishForced (settled : s.Settled) (cfg : Settings δ) (env : Surroundings)
    (n generation : Nat) : (s.finishForced cfg env n generation).Settled :=
  (settled.connectionLost cfg env generation).finish _ _

theorem forcedFailed (settled : s.Settled) (cfg : Settings δ) (env : Surroundings)
    (n generation : Nat) (f : Failure) : (s.forcedFailed cfg env n generation f).Settled := by
  rw [Supervisor.forcedFailed]
  split
  · exact (settled.journals (.say s cfg _ _)).finishForced cfg env n generation
  · exact settled.finish _ _

theorem startForced (settled : s.Settled) (cfg : Settings δ) (env : Surroundings) (n : Nat)
    (session : Option Nat) (generation : Nat) :
    (s.startForced cfg env n session generation).Settled := by
  unfold Supervisor.startForced
  split
  · exact settled.finishForced cfg env n generation
  · split
    · exact settled.forcedFailed cfg env n generation _
    · exact settled.await _ _ _ _

theorem resumeForced (settled : s.Settled) (cfg : Settings δ) (env : Surroundings)
    (n generation : Nat) (ending : Ending) :
    (s.resumeForced cfg env n generation ending).Settled := by
  rw [Supervisor.resumeForced]
  split
  · exact settled.finish _ _
  · exact settled.finishForced cfg env n generation
  · exact settled.forcedFailed cfg env n generation _

theorem startShutdown (settled : s.Settled) (cfg : Settings δ) (env : Surroundings) (n : Nat) :
    (s.startShutdown cfg env n).Settled := by
  have still : s.stopAttempts.Settled := by
    rw [stopAttempts_eq]
    exact ⟨rfl, settled.disconnected⟩
  obtain ⟨loop, keeps, ⟨-, finished⟩ | ⟨x, -, waits⟩⟩ := s.startShutdown_cases cfg env n
  · rw [finished]
    exact settled_finishShutdown still.onLoop.stopped cfg env n
  · rw [waits]
    exact still.onLoop.await _ _ _ _

theorem resumeShutdown (settled : s.Settled) (cfg : Settings δ) (env : Surroundings) (n : Nat)
    (ending : Ending) : (s.resumeShutdown cfg env n ending).Settled := by
  obtain ⟨loop, -, ⟨-, finished⟩ | ⟨-, how, -, aborted⟩⟩ :=
    s.resumeShutdown_cases cfg env n ending
  · rw [finished]
    exact settled_finishShutdown settled.onLoop.stopped cfg env n
  · rw [aborted]
    exact settled.finish _ _

theorem failAttempt (settled : s.Settled) (cfg : Settings δ) (x : Nat) :
    (s.failAttempt cfg (some x)).1.Settled := by
  have forgot : ((s.onLink (·.release x)).forget x).Settled := by
    rw [release_forget_eq]
    exact ⟨settled.stopped, settled.disconnected⟩
  have idle : ((s.onLink (·.release x)).forget x).dropState cfg =
      (s.onLink (·.release x)).forget x := if_pos forgot.disconnected
  rw [Supervisor.failAttempt]
  simp only [idle]
  exact forgot.scheduleRetry cfg

theorem connectFailed (settled : s.Settled) (cfg : Settings δ) (n x : Nat) (f : Failure) :
    (s.connectFailed cfg n x f).Settled := by
  obtain ⟨loop, -, given⟩ := s.connectFailed_eq cfg n x f
  rw [given]
  exact (settled.onLoop.failAttempt cfg x).finish _ _

theorem finishDiscard (settled : s.Settled) (n x : Nat) : (s.finishDiscard n x).Settled := by
  rw [Supervisor.finishDiscard, release_forget_eq]
  exact ⟨settled.stopped, settled.disconnected⟩

theorem discard (settled : s.Settled) (cfg : Settings δ) (env : Surroundings) (n x : Nat) :
    (s.discard cfg env n x).Settled := by
  obtain ⟨loop, -, waits | dropped⟩ := s.discard_cases cfg env n x
  · rw [waits]
    exact settled.onLoop.await _ _ _ _
  · rw [dropped]
    exact settled.onLoop.finishDiscard n x

theorem resumeDiscarding (settled : s.Settled) (cfg : Settings δ) (n x : Nat) (ending : Ending) :
    (s.resumeDiscarding cfg n x ending).Settled := by
  obtain ⟨loop, -, dropped | ⟨how, ended⟩⟩ := s.resumeDiscarding_cases cfg n x ending
  · rw [dropped]
    exact settled.onLoop.finishDiscard n x
  · rw [ended]
    exact settled.finish _ _

/-- While disconnected no attempt is current. -/
theorem linkUp (settled : s.Settled) (inv : Inv cfg alone vouch none s)
    (places : s.Places n generation x) (env : Surroundings) :
    (s.linkUp cfg env n generation x).Settled := by
  have stale : generation ≠ s.machine.generation := by
    intro current
    have connecting := ((places.fits inv).of_current_connecting current).2.1
    simp [settled.disconnected] at connecting
  rw [linkUp_of_stale stale]
  exact settled.discard cfg env n x

theorem transportUp (settled : s.Settled) (inv : Inv cfg alone vouch none s)
    (places : s.Places n generation x) (env : Surroundings) :
    (s.transportUp cfg env n generation x).Settled := by
  obtain ⟨loop, -, up | waits⟩ := s.transportUp_cases cfg env n generation x
  · rw [up]
    exact settled.linkUp inv places env
  · rw [waits]
    exact settled.onLoop.await _ _ _ _

theorem resumeConnecting (settled : s.Settled) (inv : Inv cfg alone vouch none s)
    (places : s.Places n generation x) (env : Surroundings) (ending : Ending) :
    (s.resumeConnecting cfg env n generation x ending).Settled := by
  rw [Supervisor.resumeConnecting]
  split
  · exact settled.finish _ _
  · exact settled.transportUp inv places env
  · exact settled.connectFailed cfg n x _

theorem resumePairing (settled : s.Settled) (inv : Inv cfg alone vouch none s)
    (places : s.Places n generation x) (env : Surroundings) (ending : Ending) :
    (s.resumePairing cfg env n generation x ending).Settled := by
  rw [Supervisor.resumePairing]
  split
  · exact settled.finish _ _
  · exact settled.linkUp inv places env
  · exact settled.connectFailed cfg n x _

theorem resumeDiscovering (settled : s.Settled) (inv : Inv cfg alone vouch none s)
    (here : s.loop.point? (.attempt n) = some (.discovering generation x)) (env : Surroundings)
    (reading : Except Failure (Option Gatt.Tree)) :
    (s.resumeDiscovering cfg env n generation x reading).Settled := by
  obtain ⟨loop, -, ended | ⟨current, -⟩⟩ :=
    s.resumeDiscovering_cases cfg env n generation x reading
  · rw [ended]
    exact settled.onLoop.finish _ _
  · have discovering := ((inv.attempts n _ nofun here).of_current_discovering current).2.1
    simp [settled.disconnected] at discovering

theorem expired (settled : s.Settled) (env : Surroundings) (timer : TimerId) :
    (s.step cfg env (.expired timer)).Settled := by
  simp only [Supervisor.step]
  split
  · cases timer with
    | retry r =>
      rw [handleTimer, expire_beginAttempt_eq, if_pos (by simp [settled.stopped])]
      exact ⟨settled.stopped, settled.disconnected⟩
    | discovery n generation =>
      have idle : ¬((s.machine.isCurrent generation &&
          s.machine.state == .discovering) = true) := by simp [settled.disconnected]
      have expired : ((s.onLink (·.onLoop (·.expire (.discovery n generation)))).discoveryExpired
          cfg n generation) = { s with
            discoveryTimer := none, loop := s.loop.expire (.discovery n generation) } :=
        if_neg idle
      rw [handleTimer, expired]
      exact ⟨settled.stopped, settled.disconnected⟩
    | tick i number =>
      exact settled.onLoop.works (Link.tick_works _ cfg i)
  · exact settled

theorem handleBegin (settled : s.Settled) (inv : Inv cfg alone vouch none s) (env : Surroundings)
    {task : TaskId} {point : Point} (here : s.loop.point? task = some point) :
    (s.handleBegin cfg env task point).Settled := by
  unfold Supervisor.handleBegin
  split
  · have goesOn := (inv.eager_of_ready here).2.2.1
    exact absurd (goesOn.symm.trans settled.stopped) nofun
  · exact settled.startForced cfg env _ _ _
  · exact settled.startShutdown cfg env _
  · exact settled.works (Link.beginSubscription_works _ cfg _ _ _ _ _)
  · exact settled.works (Link.beginRead_works _ cfg env _ _ _ _ _)
  · exact settled

theorem handleResume (settled : s.Settled) (inv : Inv cfg alone vouch none s)
    (env : Surroundings) (ending : Ending) {task : TaskId} {point : Point}
    (here : s.loop.point? task = some point) :
    (s.handleResume cfg env ending task point).Settled := by
  unfold Supervisor.handleResume
  split
  · exact settled.resumeConnecting inv (.inl here) env ending
  · exact settled.resumePairing inv (.inr here) env ending
  · exact settled.resumeDiscarding cfg _ _ ending
  · exact settled.resumeForced cfg env _ _ ending
  · exact settled.resumeShutdown cfg env _ ending
  · exact settled.works (Link.resumeSubscription_works _ cfg _ _ _ _ ending)
  · exact settled.works (Link.resumeRead_works _ cfg env _ _ _ _ ending)
  · exact settled.works (Link.resumeSubscription_works _ cfg _ _ _ _ .cancelled)
  · exact settled.works (Link.resumeRead_works _ cfg env _ _ _ none .cancelled)
  · exact settled.finish _ _
  · split
    · exact settled.finish _ _
    · exact settled
  · exact settled

/-- A supervisor that is settled stays so until it is started. -/
theorem step (settled : s.Settled) (inv : Inv cfg alone vouch none s) {event : Event}
    (lawful : Lawful env event) (idle : event ≠ .started) : (s.step cfg env event).Settled := by
  cases event with
  | expired timer => exact settled.expired env timer
  | begins task =>
    simp only [Supervisor.step]
    split
    · exact settled.handleBegin inv env ‹_›
    · exact settled
  | resumed task ending =>
    simp only [Supervisor.step]
    split
    · exact settled.handleResume inv env ending ‹_›
    · exact settled
  | treeRead task reading =>
    simp only [Supervisor.step]
    split
    · exact settled.resumeDiscovering inv ‹_› env reading
    · exact settled
  | linkLost generation =>
    exact (settled.connectionLost cfg env generation).journals (.report (.refl _))
  | notified i handle payload =>
    exact (settled.works (Link.notified_works s.toLink cfg i handle payload lawful.calm)).journals
      (.report (.refl _))
  | started => exact absurd rfl idle
  | shutdownAsked => exact ⟨settled.stopped, settled.disconnected⟩
  | transitionAsked target => exact absurd rfl (lawful.unasked target)

end Settled

/-- A retry is due and creates an attempt, whose first step opens a session if a client can be
constructed. -/
def Reopens (s : Supervisor δ) (cfg : Settings δ) : Prop :=
  ∃ r n, s.Due r ∧ ∀ env : Surroundings,
    let begun := s.step cfg env (.expired (.retry r))
    begun.Ready n ∧ (env.openClient = .ok () →
      (begun.step cfg env (.begins (.attempt n))).sessions.length = s.sessions.length + 1)

/-- A retry that is due creates an attempt if the supervisor goes on and is disconnected. -/
theorem step_retry_eq {r : Nat} (due : s.Due r) (cfg : Settings δ) (env : Surroundings) :
    s.step cfg env (.expired (.retry r)) =
      if s.stopped || !s.machine.canConnect then
        { s with retryTimer := none, loop := s.loop.expire (.retry r) }
      else { s with
        retryTimer := none
        attempt := some s.attempts
        attempts := s.attempts + 1
        loop := (s.loop.expire (.retry r)).spawn (.attempt s.attempts) .attemptStart } := by
  have live : .retry r ∈ s.loop.timers := due
  simp only [Supervisor.step]
  rw [if_pos live, handleTimer, expire_beginAttempt_eq]

/-- The first step of an attempt opens a session if a client can be constructed. -/
theorem length_sessions_of_ready (ready : s.Ready n)
    (disconnected : s.machine.state = .disconnected) (opened : env.openClient = .ok ()) :
    (s.step cfg env (.begins (.attempt n))).sessions.length = s.sessions.length + 1 := by
  have began : s.step cfg env (.begins (.attempt n)) = s.startAttempt cfg env n :=
    step_begins ready cfg env
  obtain ⟨loop, -, ⟨⟨f, refused⟩, -⟩ | ⟨-, waits⟩⟩ := startAttempt_cases disconnected cfg env n
  · exact nomatch refused.symm.trans opened
  · rw [began, waits]
    exact List.length_append

/-- A supervisor opens a session again exactly if a retry is due while it goes on and is
disconnected. -/
theorem Inv.reopens_iff (inv : Inv cfg alone vouch none s) : s.Reopens cfg ↔
    (∃ r, s.Due r) ∧ s.stopped = false ∧ s.machine.state = .disconnected := by
  constructor
  · rintro ⟨r, n, due, opens⟩
    obtain ⟨ready, -⟩ := opens plainWorld
    rw [step_retry_eq due] at ready
    split at ready
    · have older : s.Ready n := ready
      obtain ⟨disconnected, -, goesOn, -⟩ := inv.eager_of_ready older
      exact ⟨⟨r, due⟩, goesOn, disconnected⟩
    · rename_i may
      exact ⟨⟨r, due⟩, s.not_barred_iff.mp may⟩
  · rintro ⟨⟨r, due⟩, goesOn, disconnected⟩
    have may := s.not_barred_iff.mpr ⟨goesOn, disconnected⟩
    refine ⟨r, s.attempts, due, fun env => ?_⟩
    dsimp only
    rw [step_retry_eq due, if_neg may]
    have ready : ({ s with
        retryTimer := none
        attempt := some s.attempts
        attempts := s.attempts + 1
        loop := (s.loop.expire (.retry r)).spawn (.attempt s.attempts) .attemptStart } :
          Supervisor δ).Ready s.attempts := by
      simp [Ready]
    exact ⟨ready, length_sessions_of_ready ready disconnected⟩

/-- A start makes a retry due if it finds the supervisor stopped. -/
theorem start_eq (stopped : s.stopped = true) (cfg : Settings δ) : s.start cfg = { s with
    stopped := false
    failures := 0
    retryTimer := some (.retry s.retries)
    retries := s.retries + 1
    loop := s.loop.replace s.retryTimer (.retry s.retries) (.delay cfg.atOnce) } := by
  rw [Supervisor.start, if_pos stopped, scheduleConnect_eq rfl]

/-- Where no retry is due, a start opens a session again exactly if the supervisor was settled. -/
theorem Inv.reopens_start_iff (inv : Inv cfg alone vouch none s) (unretried : ∀ r, ¬s.Due r) :
    (s.start cfg).Reopens cfg ↔ s.Settled := by
  rw [inv.start.reopens_iff]
  cases stopped : s.stopped with
  | true =>
    have due : (s.start cfg).Due s.retries := by
      rw [start_eq stopped, Due, Loop.mem_timers_replace]
      exact .inl rfl
    constructor
    · rintro ⟨-, -, disconnected⟩
      rw [start_eq stopped] at disconnected
      exact ⟨stopped, disconnected⟩
    · rintro ⟨-, disconnected⟩
      refine ⟨⟨_, due⟩, ?_⟩
      rw [start_eq stopped]
      exact ⟨rfl, disconnected⟩
  | false =>
    refine iff_of_false ?_ fun settled => nomatch stopped.symm.trans settled.stopped
    rintro ⟨⟨r, due⟩, -⟩
    rw [Supervisor.start, if_neg (by simp [stopped])] at due
    exact unretried r due

end Supervisor

end SensorLink
