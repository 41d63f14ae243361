/-
# Losing a connection and stopping preserve the invariant

A connection that is lost is torn down, and the next attempt is scheduled.  That
is sound as long as no attempt is left in charge of connecting, which
`Unattended` states.  A shutdown takes the latest attempt out of charge before it
tears the connection down.
-/

import SensorLink.Proofs.Supervisor.Callbacks
import SensorLink.Proofs.Supervisor.Invariant

namespace SensorLink

open Gatt (Ending)
open Link (Loop Point Settings Surroundings TaskId TimerId)
open Sensor (Kind)

namespace Supervisor

variable {δ : Type}

/-- No attempt but the one that is running needs to be in charge of connecting. -/
def Unattended (running : Option Nat) (s : Supervisor δ) : Prop :=
  ∀ n point, running ≠ some n → s.loop.point? (.attempt n) = some point → s.Fits n False point

variable {cfg : Settings δ} {alone : Prop} {vouch : Nat → Nat → Kind → Float → Prop}
  {running : Option Nat} {s s' : Supervisor δ} {n : Nat}

namespace Inv

/-- While the supervisor is stopped no attempt is in charge. -/
theorem unattended_of_stopped (inv : Inv cfg alone vouch running s) (stopped : s.stopped = true) :
    Unattended running s := by
  intro n point idle here
  apply (inv.attempts n point idle here).weaken
  rintro ⟨-, goesOn, -⟩
  simp [stopped] at goesOn

/-- While a connection is up no attempt is in charge of connecting. -/
theorem unattended_of_up (inv : Inv cfg alone vouch running s)
    (up : s.machine.state = .discovering ∨ s.machine.state = .ready) : Unattended running s := by
  have connected : s.machine.state ≠ .disconnected ∧ s.machine.state ≠ .connecting := by
    rcases up with up | up <;> simp [up]
  intro n point idle here
  refine (inv.attempts n point idle here).imp (And.imp_right fun leads => ?_) id
  cases point with
  | attemptStart => exact absurd leads.1 connected.1
  | connecting g x | pairing g x =>
    rcases leads.2.1 with ⟨-, connecting, -⟩ | ⟨-, disconnected⟩
    · exact absurd connecting connected.2
    · exact absurd disconnected connected.1
  | discovering g x => exact leads
  | discarding x => exact leads
  | forcedStart | forcedClosing | shutdownStart | shutdownClosing | subscriptionStart
  | subscribing | readStart | reading | doomed => trivial

/-- While the latest attempt is running all others lag. -/
theorem lags_of_leading (inv : Inv cfg alone vouch (some n) s) (latest : n + 1 = s.attempts)
    {m : Nat} {point : Point} (other : n ≠ m)
    (here : s.loop.point? (.attempt m) = some point) : m + 1 < s.attempts ∧ s.Lags m point := by
  rcases inv.attempts m point (by simpa using other) here with ⟨same, -⟩ | lags
  · omega
  · exact lags

theorem unattended_of_leading (inv : Inv cfg alone vouch (some n) s)
    (latest : n + 1 = s.attempts) : Unattended (some n) s := by
  intro m point idle here
  exact .inr (inv.lags_of_leading latest (by simpa using idle) here)

end Inv

namespace Unattended

theorem fade {loop : Loop δ} {news : List Link.Notice} (unattended : Unattended running s)
    (wanes : s.loop.Wanes news loop) : Unattended running { s with loop } := by
  intro n point idle here
  have kept {earlier : Point} (before : s.loop.point? (.attempt n) = some earlier) :
      ({ s with loop } : Supervisor δ).Fits n False earlier :=
    (unattended n earlier idle before).onLoop wanes.tape id
  obtain ⟨earlier, before, rfl | rfl⟩ := wanes.earlier rfl here
  · exact kept before
  · exact (kept before).doomed

theorem journals (unattended : Unattended running s) (journals : s.Journals s') :
    Unattended running s' := by
  obtain ⟨loop, keeps, rfl⟩ := journals
  exact unattended.fade keeps.wanes

theorem torn (unattended : Unattended running s) : Unattended running s.torn :=
  fun n point idle here => (unattended n point idle here).torn

end Unattended

namespace Inv

theorem scheduleConnect (inv : Inv cfg alone vouch running s) (unattended : Unattended running s)
    (delay : δ) : Inv cfg alone vouch running (s.scheduleConnect delay) := by
  cases stopped : s.stopped with
  | true => rwa [scheduleConnect_of_stopped stopped]
  | false =>
    rw [scheduleConnect_eq stopped]
    exact { inv with
      attempts := by
        intro n point idle here
        rw [Loop.point?_replace] at here
        refine (unattended n point idle here).onLoop ?_ False.elim
        rw [Loop.tape_replace, List.append_assoc]
        exact List.subset_append_left _ _
      retry := by
        intro r live
        rcases (Loop.mem_timers_replace _ _ _ _ _).mp live with same | ⟨before, gone⟩
        · exact congrArg some same.symm
        · exact absurd (inv.retry r before) gone
      word := by
        rw [Loop.notices_replace]
        exact inv.word }

theorem scheduleRetry (inv : Inv cfg alone vouch running s) (unattended : Unattended running s) :
    Inv cfg alone vouch running (s.scheduleRetry cfg).1 := by
  rw [Supervisor.scheduleRetry]
  cases cfg.retryDelay s.failures with
  | error f => exact inv
  | ok delay =>
    have counted : Inv cfg alone vouch running { s with failures := s.failures + 1 } :=
      { inv with }
    have said := Journals.say { s with failures := s.failures + 1 } cfg .info
      ("Reconnecting to " ++ cfg.address ++ " in " ++ cfg.showDelay delay ++ "s")
    have still : Unattended running { s with failures := s.failures + 1 } := unattended
    exact (counted.journals said).scheduleConnect (still.journals said) delay

theorem teardown (inv : Inv cfg alone vouch running s) (env : Surroundings) :
    Inv cfg alone vouch running (s.teardown cfg env) := by
  obtain ⟨loop, wanes, torn⟩ := s.teardown_eq cfg env
  rw [torn]
  exact inv.torn wanes

/-- The end of a connection preserves the invariant, whether or not it is the current one. -/
theorem connectionLost (inv : Inv cfg alone vouch running s) (env : Surroundings)
    (generation : Int) : Inv cfg alone vouch running (s.connectionLost cfg env generation).1 := by
  obtain ⟨loop, keeps, ignored | ⟨-, up, lost⟩⟩ := s.connectionLost_cases cfg env generation
  · rw [ignored]
    exact inv.fade keeps.wanes
  · have noted := inv.fade keeps.wanes
    obtain ⟨loop', wanes, torn⟩ := teardown_eq { s with loop } cfg env
    rw [lost, torn]
    exact (noted.torn wanes).scheduleRetry ((noted.unattended_of_up up).torn.fade wanes)

/-- A failure that left a callback is reported. -/
theorem report {outcome : Supervisor δ × Option Failure}
    (inv : Inv cfg alone vouch running outcome.1) : Inv cfg alone vouch running (report outcome) :=
  inv.journals (Journals.report (.refl _))

theorem discoveryExpired (inv : Inv cfg alone vouch none s) (n generation : Nat) :
    Inv cfg alone vouch none (s.discoveryExpired cfg n generation) := by
  have dropped : Inv cfg alone vouch none { s with discoveryTimer := none } := { inv with }
  rw [Supervisor.discoveryExpired]
  simp only
  split
  · exact (dropped.journals (.say _ cfg _ _)).spawnOther (by simp) _
  · exact dropped

theorem finishForced (inv : Inv cfg alone vouch none s) (env : Surroundings) (n generation : Nat) :
    Inv cfg alone vouch none (s.finishForced cfg env n generation) :=
  (inv.connectionLost env generation).finishOther (.forcedDisconnect n) _

theorem forcedFailed (inv : Inv cfg alone vouch none s) (env : Surroundings) (n generation : Nat)
    (f : Failure) : Inv cfg alone vouch none (s.forcedFailed cfg env n generation f) := by
  rw [Supervisor.forcedFailed]
  split
  · exact (inv.journals (.say s cfg _ _)).finishForced env n generation
  · exact inv.finishOther _ _

theorem startForced (inv : Inv cfg alone vouch none s) (env : Surroundings) (n : Nat)
    (session : Option Nat) (generation : Nat) :
    Inv cfg alone vouch none (s.startForced cfg env n session generation) := by
  unfold Supervisor.startForced
  split
  · exact inv.finishForced env n generation
  · split
    · exact inv.forcedFailed env n generation _
    · exact inv.awaitOther (by simp) _ _ _

theorem resumeForced (inv : Inv cfg alone vouch none s) (env : Surroundings) (n generation : Nat)
    (ending : Ending) : Inv cfg alone vouch none (s.resumeForced cfg env n generation ending) := by
  rw [Supervisor.resumeForced]
  split
  · exact inv.finishOther _ _
  · exact inv.finishForced env n generation
  · exact inv.forcedFailed env n generation _

theorem start (inv : Inv cfg alone vouch none s) : Inv cfg alone vouch none (s.start cfg) := by
  rw [Supervisor.start]
  split
  · have unattended := inv.unattended_of_stopped ‹_›
    have goesOn : Unattended none { s with stopped := false, failures := 0 } := unattended
    have started : Inv cfg alone vouch none { s with stopped := false, failures := 0 } :=
      { inv with
        attempts := by
          intro n point idle here
          exact (unattended n point idle here).weaken False.elim }
    exact started.scheduleConnect goesOn cfg.atOnce
  · exact inv

theorem requestShutdown (inv : Inv cfg alone vouch none s) :
    Inv cfg alone vouch none s.requestShutdown := by
  have spawned : Inv cfg alone vouch none
      (s.onLink (·.onLoop (·.spawn (.shutdown s.shutdowns) .shutdownStart))) :=
    inv.spawnOther (by simp) _
  exact { spawned with }

theorem finishShutdown (inv : Inv cfg alone vouch none s) (env : Surroundings) (n : Nat) :
    Inv cfg alone vouch none (s.finishShutdown cfg env n) :=
  ((inv.teardown env).journals (.say _ cfg _ _)).finishOther (.shutdown n) .done

/-- A shutdown takes the latest attempt out of charge and cancels it. -/
theorem stopAttempts (inv : Inv cfg alone vouch none s) :
    Inv cfg alone vouch none s.stopAttempts := by
  rw [stopAttempts_eq]
  have wanes := s.wanes_stoppedLoop
  exact { inv with
    attempts := by
      intro n point _ here
      obtain ⟨earlier, before, same⟩ := wanes.earlier rfl here
      have fits : ({ s with loop := s.stoppedLoop } : Supervisor δ).Fits n (s.Eager n) earlier :=
        (inv.attempts n earlier nofun before).onLoop wanes.tape id
      have settled : ({ s with loop := s.stoppedLoop } : Supervisor δ).Fits n False point := by
        rcases same with rfl | rfl
        · by_cases eager : s.Eager n
          · obtain ⟨begun, cancelled⟩ := s.cancelled_stoppedLoop eager.1 here
            exact fits.cancelled begun cancelled
          · exact fits.weaken eager
        · exact fits.doomed
      exact settled.weaken False.elim
    retry := fun r live => absurd live (s.not_mem_stoppedLoop (inv.retry r))
    word := by
      rw [wanes.notices, List.append_nil]
      exact inv.word }

theorem startShutdown (inv : Inv cfg alone vouch none s) (env : Surroundings) (n : Nat) :
    Inv cfg alone vouch none (s.startShutdown cfg env n) := by
  obtain ⟨loop, keeps, ⟨-, finished⟩ | ⟨session, -, waits⟩⟩ := s.startShutdown_cases cfg env n
  · rw [finished]
    exact (inv.stopAttempts.fade keeps.wanes).finishShutdown env n
  · rw [waits]
    exact (inv.stopAttempts.fade keeps.wanes).awaitOther (by simp) _ _ _

theorem resumeShutdown (inv : Inv cfg alone vouch none s) (env : Surroundings) (n : Nat)
    (ending : Ending) : Inv cfg alone vouch none (s.resumeShutdown cfg env n ending) := by
  obtain ⟨loop, keeps, ⟨-, finished⟩ | ⟨-, how, -, aborted⟩⟩ :=
    s.resumeShutdown_cases cfg env n ending
  · rw [finished]
    exact (inv.fade keeps.wanes).finishShutdown env n
  · rw [aborted]
    exact inv.finishOther _ how

end Inv

end Supervisor

end SensorLink
