/-
# Attempts preserve the invariant

An attempt that is current drives the connection; only the latest one can be.
An attempt that is not current any more closes its own session, which is not the
one in charge.  A superseded attempt has been cancelled, so the only way for it
to disturb its successor would be to fail after all, which lawful runs exclude.
-/

import SensorLink.Proofs.Supervisor.Closing
import SensorLink.Proofs.Supervisor.Run

namespace SensorLink

open Gatt (Ending)
open Link (Loop Point Settings Surroundings TaskId TimerId)
open Sensor (Kind)

namespace Supervisor

variable {δ : Type} {cfg : Settings δ} {alone : Prop}
  {vouch : Nat → Nat → Kind → Float → Prop} {running : Option Nat} {s s' : Supervisor δ}
  {n : Nat} {eager : Prop} {point : Point} {generation session : Nat}

/-- While disconnected, an attempt that is not in charge may have a successor. -/
theorem Leads.lags (leads : s.Leads n False point) (disconnected : s.machine.state = .disconnected)
    (idle : s.session = none) : s.Lags n point := by
  have apart (x : Nat) : s.session ≠ some x := by simp [idle]
  cases point with
  | attemptStart => exact leads.2
  | connecting g x | pairing g x =>
    obtain ⟨opened, ⟨-, connecting, -⟩ | ⟨older, -⟩, cancelled | absurdity⟩ := leads
    · simp [connecting] at disconnected
    · cases absurdity
    · exact ⟨older, opened, apart x, cancelled⟩
    · cases absurdity
  | discovering g x =>
    rcases leads with ⟨-, discovering, -⟩ | older
    · simp [discovering] at disconnected
    · exact older
  | discarding x => exact leads
  | forcedStart | forcedClosing | shutdownStart | shutdownClosing | subscriptionStart
  | subscribing | readStart | reading | doomed => trivial

/-- An attempt that is current while it connects is the latest, and drives the connection. -/
theorem Fits.of_current_connecting (fits : s.Fits n eager (.connecting generation session))
    (current : generation = s.machine.generation) :
    n + 1 = s.attempts ∧ s.machine.state = .connecting ∧ s.session = some session := by
  rcases fits with ⟨latest, -, ⟨-, connecting, own⟩ | ⟨older, -⟩, -⟩ | ⟨-, older, -⟩
  · exact ⟨latest, connecting, own⟩
  · omega
  · omega

/-- An attempt that is not current while it connects owns a session that is not in charge. -/
theorem Fits.of_stale_connecting (fits : s.Fits n eager (.connecting generation session))
    (idle : s.machine.state = .disconnected → s.session = none)
    (stale : generation ≠ s.machine.generation) :
    s.Fits n eager (.discarding session) := by
  rcases fits with ⟨latest, opened, ⟨current, -⟩ | ⟨-, disconnected⟩, -⟩ |
    ⟨later, -, opened, apart, -⟩
  · exact absurd current stale
  · exact .inl ⟨latest, opened, by simp [idle disconnected]⟩
  · exact .inr ⟨later, opened, apart⟩

/-- The latest attempt connects only while no connection is up, and no other session than its
own is in charge. -/
theorem Fits.of_latest_connecting (fits : s.Fits n eager (.connecting generation session))
    (idle : s.machine.state = .disconnected → s.session = none) (latest : ¬n + 1 < s.attempts) :
    n + 1 = s.attempts ∧
      (s.machine.state = .connecting ∨ s.machine.state = .disconnected) ∧
      (s.session = none ∨ s.session = some session) := by
  rcases fits with ⟨same, -, ⟨-, connecting, own⟩ | ⟨-, disconnected⟩, -⟩ | ⟨later, -⟩
  · exact ⟨same, .inl connecting, .inr own⟩
  · exact ⟨same, .inr disconnected, .inl (idle disconnected)⟩
  · exact absurd later latest

theorem Fits.of_discarding (fits : s.Fits n eager (.discarding session)) :
    s.session ≠ some session := by
  rcases fits with ⟨-, -, apart⟩ | ⟨-, -, apart⟩ <;> exact apart

/-- An attempt that is current while it discovers is the latest, and drives the connection. -/
theorem Fits.of_current_discovering (fits : s.Fits n eager (.discovering generation session))
    (current : generation = s.machine.generation) :
    n + 1 = s.attempts ∧ s.machine.state = .discovering ∧ s.session = some session := by
  rcases fits with ⟨latest, ⟨-, discovering, own⟩ | older⟩ | ⟨-, older⟩
  · exact ⟨latest, discovering, own⟩
  · exact absurd current (Nat.ne_of_lt older)
  · exact absurd current (Nat.ne_of_lt older)

namespace Inv

/-- The timer of the next attempt goes off. -/
theorem beginAttempt (inv : Inv cfg alone vouch none s) {r : Nat}
    (live : .retry r ∈ s.loop.timers) :
    Inv cfg alone vouch none (s.onLink (·.onLoop (·.expire (.retry r)))).beginAttempt := by
  have unattended : Unattended none s := by
    intro n point idle here
    apply (inv.attempts n point idle here).weaken
    rintro ⟨-, -, none⟩
    exact nomatch none.symm.trans (inv.retry r live)
  have due : Inv cfg alone vouch none
      { s with retryTimer := none, loop := s.loop.expire (.retry r) } :=
    { inv with
      attempts := by
        intro n point idle here
        exact (unattended n point idle here).weaken False.elim
      retry := by
        intro other still
        obtain ⟨before, different⟩ := (Loop.mem_timers_expire _ _ _).mp still
        exact absurd (Option.some.inj ((inv.retry other before).symm.trans (inv.retry r live)))
          different }
  rw [expire_beginAttempt_eq]
  split
  · exact due
  · rename_i may
    obtain ⟨goesOn, disconnected⟩ := s.not_barred_iff.mp may
    exact { due with
      attempts := by
        intro n point _ here
        rw [Loop.point?_spawn] at here
        by_cases latest : n = s.attempts
        · subst latest
          rw [if_pos rfl] at here
          cases here
          exact .inl ⟨rfl, disconnected, rfl, goesOn, rfl⟩
        · rw [if_neg (by simpa using latest)] at here
          have lags : n + 1 < s.attempts + 1 ∧ s.Lags n point := by
            rcases unattended n point nofun here with ⟨same, leads⟩ | ⟨later, lags⟩
            · exact ⟨by omega, leads.lags disconnected (inv.idle disconnected).1⟩
            · exact ⟨by omega, lags⟩
          refine .inr ⟨lags.1, lags.2.mono (Nat.le_refl _) (Nat.le_refl _) (fun _ _ => id) ?_⟩
          exact List.subset_append_left _ _
      word := by
        rw [Link.Loop.notices_of_tape (Loop.tape_spawn _ _ _) rfl]
        exact due.word }

/-- An attempt that begins starts a new generation. -/
theorem connecting (inv : Inv cfg alone vouch (some n) s) (latest : n + 1 = s.attempts)
    (disconnected : s.machine.state = .disconnected) :
    Inv cfg alone vouch (some n) { s with machine := s.machine.enter .connecting none } where
  attempts m point idle here := by
    have lags := inv.lags_of_leading latest (by simpa using idle) here
    exact .inr ⟨lags.1, lags.2.mono (Nat.le_succ _) (Nat.le_refl _) (fun _ _ => id)
      (List.Subset.refl _)⟩
  retry := inv.retry
  offline online := by
    have ready := inv.offline online
    simp [disconnected] at ready
  online _ ready := nomatch ready
  vouched kind value shown := by
    have ready := (inv.vouched kind value shown).1
    simp [disconnected] at ready
  idle disconnected := nomatch disconnected
  held up := by rcases up with up | up <;> cases up
  serving ready := nomatch ready
  resting _ := inv.resting (by simp [disconnected])
  sole := inv.sole
  known := inv.known
  mapped usable := by simpa [disconnected, Connection.Machine.enter] using inv.mapped usable
  word := inv.silent (by simp [disconnected])

/-- The attempt that is running opens a session. -/
theorem opened (inv : Inv cfg alone vouch (some n) s) (latest : n + 1 = s.attempts)
    (connecting : s.machine.state = .connecting) (entry : Link.Session) :
    Inv cfg alone vouch (some n)
      { s with sessions := s.sessions ++ [entry], session := some s.sessions.length } where
  attempts m point idle here := by
    obtain ⟨later, lags⟩ := inv.lags_of_leading latest (by simpa using idle) here
    refine .inr ⟨later, lags.mono (Nat.le_refl _) (by simp) ?_ (List.Subset.refl _)⟩
    rintro x before ⟨⟩
    exact absurd before (Nat.lt_irrefl _)
  retry := inv.retry
  offline := inv.offline
  online := inv.online
  vouched kind value shown := by
    have ready := (inv.vouched kind value shown).1
    simp [connecting] at ready
  idle disconnected := by simp [connecting] at disconnected
  held up := by simp [connecting] at up
  serving ready := by simp [connecting] at ready
  resting := inv.resting
  sole i duty here busy := by
    refine inv.sole i duty here (busy.imp_right fun own => ?_)
    have older := inv.known duty (List.mem_of_getElem? here)
    rw [Option.some.injEq] at own
    omega
  known duty here := Nat.lt_of_lt_of_le (inv.known duty here) (by simp)
  mapped := inv.mapped
  word := inv.word

/-- A session that does not belong to a connection that is up gives its client up. -/
theorem release (inv : Inv cfg alone vouch running s) {x : Nat}
    (apart : s.machine.state = .discovering ∨ s.machine.state = .ready → s.session ≠ some x) :
    Inv cfg alone vouch running (s.onLink (·.release x)) :=
  have length : s.sessions.length = (s.onLink (·.release x)).sessions.length :=
    (List.length_modify ..).symm
  { inv with
    attempts := by
      intro n point idle here
      have fits := inv.attempts n point idle here
      exact fits.mono rfl rfl rfl (Nat.le_of_eq length) (List.Subset.refl _) id
    held := by
      intro up
      obtain ⟨y, own, machine, held⟩ := inv.held up
      refine ⟨y, own, machine, ?_⟩
      have other : x ≠ y := by
        rintro rfl
        exact apart up own
      simpa [Link.isReleased, onLink, Link.release, other] using held
    known := fun duty here => length ▸ inv.known duty here }

/-- The attempt that is running forgets its session. -/
theorem forgotten (inv : Inv cfg alone vouch (some n) s) (latest : n + 1 = s.attempts)
    (down : s.machine.state = .connecting ∨ s.machine.state = .disconnected) :
    Inv cfg alone vouch (some n) { s with session := none } :=
  have notReady : s.machine.state ≠ .ready := by rcases down with down | down <;> simp [down]
  { inv with
    attempts := by
      intro m point idle here
      obtain ⟨later, lags⟩ := inv.lags_of_leading latest (by simpa using idle) here
      exact .inr ⟨later, lags.mono (Nat.le_refl _) (Nat.le_refl _) nofun (List.Subset.refl _)⟩
    vouched := fun kind value shown => absurd (inv.vouched kind value shown).1 notReady
    idle := fun disconnected => ⟨rfl, (inv.idle disconnected).2⟩
    held := by
      intro up
      rcases down with down | down <;> simp [down] at up
    serving := fun ready => absurd ready notReady
    sole := fun i duty here busy => inv.sole i duty here (busy.imp_right nofun) }

/-- The attempt that is running leaves the state for disconnected. -/
theorem dropped (inv : Inv cfg alone vouch (some n) s) (latest : n + 1 = s.attempts)
    (down : s.machine.state ≠ .ready) (idle : s.session = none) :
    Inv cfg alone vouch (some n) { s with machine := s.machine.dropped } where
  attempts m point other here := by
    obtain ⟨later, lags⟩ := inv.lags_of_leading latest (by simpa using other) here
    exact .inr ⟨later, lags.mono (Connection.Machine.generation_le_dropped s.machine)
      (Nat.le_refl _) (fun _ _ => id) (List.Subset.refl _)⟩
  retry := inv.retry
  offline online := absurd (inv.offline online) down
  online _ ready := by simp at ready
  vouched kind value shown := absurd (inv.vouched kind value shown).1 down
  idle _ := ⟨idle, Connection.Machine.dropped_session fun idle => (inv.idle idle).2⟩
  held up := by simp at up
  serving ready := by simp at ready
  resting _ := inv.resting down
  sole := inv.sole
  known := inv.known
  mapped usable := by simpa [down] using inv.mapped usable
  word := by
    have offline : s.machine.dropped.isReady = false := by simp [Connection.Machine.isReady]
    show Link.Spoken s.machine.dropped.isReady _
    rw [offline]
    exact inv.silent down

/-- The attempt that is running leaves the state and schedules the next attempt. -/
theorem dropState_scheduleRetry (inv : Inv cfg alone vouch (some n) s)
    (latest : n + 1 = s.attempts) (down : s.machine.state ≠ .ready) (idle : s.session = none) :
    Inv cfg alone vouch (some n) ((s.dropState cfg).scheduleRetry cfg).1 := by
  obtain ⟨loop, keeps, left⟩ := s.dropState_eq cfg
  rw [left]
  have dropped := (inv.dropped latest down idle).fade keeps.wanes
  exact dropped.scheduleRetry (dropped.unattended_of_leading latest)

/-- The latest attempt is given up. -/
theorem failAttempt (inv : Inv cfg alone vouch (some n) s) (latest : n + 1 = s.attempts)
    (down : s.machine.state = .connecting ∨ s.machine.state = .disconnected)
    (own : s.session = none ∨ s.session = some session) :
    Inv cfg alone vouch (some n) (s.failAttempt cfg (some session)).1 := by
  have apart : s.machine.state = .discovering ∨ s.machine.state = .ready →
      s.session ≠ some session := by
    intro up
    rcases down with down | down <;> simp [down] at up
  have notReady : s.machine.state ≠ .ready := by rcases down with down | down <;> simp [down]
  have forgotten : (s.onLink (·.release session)).forget session =
      { s.onLink (·.release session) with session := none } := by
    rw [release_forget_eq]
    rcases own with own | own <;> simp [own, onLink, Link.release]
  have given := (inv.release apart).forgotten latest down
  rw [← forgotten] at given
  apply given.dropState_scheduleRetry
  · rw [forgotten]
    exact latest
  · rw [forgotten]
    exact notReady
  · rw [forgotten]

/-- The attempt that is running ends, with a failure if there is one. -/
theorem finishWith {outcome : Supervisor δ × Option Failure}
    (inv : Inv cfg alone vouch (some n) outcome.1) :
    Inv cfg alone vouch none (finishWith (.attempt n) outcome) :=
  inv.finish _

theorem connectFailed (inv : Inv cfg alone vouch (some n) s) (latest : n + 1 = s.attempts)
    (down : s.machine.state = .connecting ∨ s.machine.state = .disconnected)
    (own : s.session = none ∨ s.session = some session) (f : Failure) :
    Inv cfg alone vouch none (s.connectFailed cfg n session f) := by
  obtain ⟨loop, keeps, given⟩ := s.connectFailed_eq cfg n session f
  rw [given]
  exact ((inv.fade keeps.wanes).failAttempt latest down own).finishWith

theorem startAttempt (inv : Inv cfg alone vouch (some n) s) (latest : n + 1 = s.attempts)
    (disconnected : s.machine.state = .disconnected) (eager : s.Eager n) (env : Surroundings) :
    Inv cfg alone vouch none (s.startAttempt cfg env n) := by
  have began := inv.connecting latest disconnected
  obtain ⟨loop, keeps, ⟨-, given⟩ | ⟨-, waits⟩⟩ := startAttempt_cases disconnected cfg env n
  · rw [given]
    apply Inv.finishWith
    apply (began.fade keeps.wanes).dropState_scheduleRetry latest
    · nofun
    · exact (inv.idle disconnected).1
  · rw [waits]
    have opened := began.opened latest rfl ⟨s.machine.generation + 1, false⟩
    apply (opened.fade keeps.wanes).await
    have grown : s.sessions.length <
        (s.sessions ++ [(⟨s.machine.generation + 1, false⟩ : Link.Session)]).length := by simp
    exact .inl ⟨latest, grown, .inl ⟨rfl, rfl, rfl⟩, .inr eager⟩

theorem finishDiscard (inv : Inv cfg alone vouch (some n) s) (apart : s.session ≠ some session) :
    Inv cfg alone vouch none (s.finishDiscard n session) := by
  have kept : (s.onLink (·.release session)).forget session = s.onLink (·.release session) := by
    rw [release_forget_eq, if_neg apart]
    rfl
  rw [Supervisor.finishDiscard, kept]
  exact (inv.release fun _ => apart).finish .done

theorem discard (inv : Inv cfg alone vouch (some n) s)
    (fits : s.Fits n (s.Eager n) (.discarding session)) (env : Surroundings) :
    Inv cfg alone vouch none (s.discard cfg env n session) := by
  obtain ⟨loop, keeps, waits | dropped⟩ := s.discard_cases cfg env n session
  · rw [waits]
    apply (inv.fade keeps.wanes).await
    exact fits.onLoop keeps.tape id
  · rw [dropped]
    exact (inv.fade keeps.wanes).finishDiscard fits.of_discarding

theorem resumeDiscarding (inv : Inv cfg alone vouch (some n) s)
    (apart : s.session ≠ some session) (ending : Ending) :
    Inv cfg alone vouch none (s.resumeDiscarding cfg n session ending) := by
  obtain ⟨loop, keeps, dropped | ⟨how, ended⟩⟩ := s.resumeDiscarding_cases cfg n session ending
  · rw [dropped]
    exact (inv.fade keeps.wanes).finishDiscard apart
  · rw [ended]
    exact inv.finish how

/-- The connection of the attempt that is running enters discovery. -/
theorem discovering (inv : Inv cfg alone vouch (some n) s) (latest : n + 1 = s.attempts)
    (connecting : s.machine.state = .connecting) (own : s.session = some session)
    (held : s.isReleased session = false) :
    Inv cfg alone vouch (some n)
      { s with machine := s.machine.enter .discovering (some session) } where
  attempts m point idle here := by
    obtain ⟨later, lags⟩ := inv.lags_of_leading latest (by simpa using idle) here
    exact .inr ⟨later, lags.mono (Nat.le_refl _) (Nat.le_refl _) (fun _ _ => id)
      (List.Subset.refl _)⟩
  retry := inv.retry
  offline online := by
    have ready := inv.offline online
    simp [connecting] at ready
  online _ ready := nomatch ready
  vouched kind value shown := by
    have ready := (inv.vouched kind value shown).1
    simp [connecting] at ready
  idle disconnected := nomatch disconnected
  held _ := ⟨session, own, rfl, held⟩
  serving ready := nomatch ready
  resting _ := inv.resting (by simp [connecting])
  sole := inv.sole
  known := inv.known
  mapped usable := by simpa [connecting, Connection.Machine.enter] using inv.mapped usable
  word := inv.silent (by simp [connecting])

theorem startDiscovery (inv : Inv cfg alone vouch (some n) s)
    (fits : s.Fits n (s.Eager n) (.discovering generation session)) :
    Inv cfg alone vouch none (s.startDiscovery cfg n generation session) := by
  have asks {s : Supervisor δ} (inv : Inv cfg alone vouch (some n) s)
      (fits : s.Fits n (s.Eager n) (.discovering generation session)) :
      Inv cfg alone vouch none (s.onLink (·.onLoop fun loop =>
        (loop.suspend (.attempt n) (.discovering generation session)).emit
          (.requestTree (.attempt n) session))) :=
    (inv.suspend fits).fade
      (Loop.Keeps.silent _ (.requestTree (.attempt n) session) rfl nofun).wanes
  rw [Supervisor.startDiscovery]
  split
  · rename_i limit _
    have timed : Inv cfg alone vouch (some n) { s with
        loop := s.loop.schedule (.discovery n generation) (.delay limit) } := by
      apply inv.onLoop
      · exact fun m point idle here => .inl ⟨here, idle⟩
      · intro r live
        rw [Loop.timers_schedule, List.mem_cons] at live
        exact live.resolve_left nofun
      · simp
      · rw [Link.Loop.notices_of_tape (Loop.tape_schedule _ _ _) rfl]
        exact inv.word
    have limited : Inv cfg alone vouch (some n) { s with
        loop := s.loop.schedule (.discovery n generation) (.delay limit)
        discoveryTimer := some (.discovery n generation) } := { timed with }
    exact asks limited (fits.onLoop (by simp) id)
  · exact asks inv fits

/-- The link of an attempt is up. -/
theorem linkUp (inv : Inv cfg alone vouch (some n) s)
    (fits : s.Fits n (s.Eager n) (.connecting generation session)) (env : Surroundings) :
    Inv cfg alone vouch none (s.linkUp cfg env n generation session) := by
  by_cases current : generation = s.machine.generation
  · obtain ⟨latest, connecting, own⟩ := fits.of_current_connecting current
    subst current
    obtain ⟨loop, keeps, ⟨held, up⟩ | ⟨-, given⟩⟩ := linkUp_cases connecting cfg env n session
    · rw [up]
      have noted := inv.fade keeps.wanes
      exact (noted.discovering latest connecting own held).startDiscovery
        (.inl ⟨latest, .inl ⟨rfl, rfl, own⟩⟩)
    · rw [given]
      exact ((inv.fade keeps.wanes).failAttempt latest (.inl connecting) (.inr own)).finishWith
  · rw [linkUp_of_stale current]
    exact inv.discard (fits.of_stale_connecting (fun idle => (inv.idle idle).1) current) env

theorem transportUp (inv : Inv cfg alone vouch (some n) s)
    (fits : s.Fits n (s.Eager n) (.connecting generation session)) (env : Surroundings) :
    Inv cfg alone vouch none (s.transportUp cfg env n generation session) := by
  obtain ⟨loop, keeps, up | waits⟩ := s.transportUp_cases cfg env n generation session
  · rw [up]
    exact inv.linkUp fits env
  · rw [waits]
    apply (inv.fade keeps.wanes).await
    exact fits.onLoop keeps.tape id

/-- Connecting or pairing failed in a lawful run. -/
theorem failed (inv : Inv cfg alone vouch (some n) s)
    (fits : s.Fits n (s.Eager n) (.connecting generation session))
    (leading : ¬n + 1 < s.attempts) (f : Failure) :
    Inv cfg alone vouch none (s.connectFailed cfg n session f) := by
  obtain ⟨latest, down, own⟩ := fits.of_latest_connecting (fun idle => (inv.idle idle).1) leading
  exact inv.connectFailed latest down own f

end Inv

end Supervisor

end SensorLink
