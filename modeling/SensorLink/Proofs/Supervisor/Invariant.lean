/-
# What holds between two callbacks

`Inv` is what every callback of the supervisor preserves.  Its heart is a table
of the places where an attempt may wait.  The latest attempt leads: while the
state is connecting or discovering, it may be the one that drives the
connection.  Every earlier attempt lags: it was superseded by a later generation,
and all that is left for it is to close its own session.

While the callback of an attempt is under way, the place where the attempt waited
is out of date.  `Inv` therefore exempts the attempt that is running, until it
waits again or ends.
-/

import SensorLink.Proofs.Supervisor.Operations

namespace SensorLink

open Link (Loop Notice Point Settings Spoken TaskId TimerId)
open Sensor (Kind)

namespace Supervisor

variable {δ : Type}

/-- An attempt is in charge of connecting: nothing took it back, and no other is due. -/
def Eager (s : Supervisor δ) (n : Nat) : Prop :=
  s.attempt = some n ∧ s.stopped = false ∧ s.retryTimer = none

/-- Where the latest attempt may wait, depending on whether it is in charge. -/
def Leads (s : Supervisor δ) (n : Nat) (eager : Prop) : Point → Prop
  | .attemptStart => s.machine.state = .disconnected ∧ eager
  | .connecting generation session | .pairing generation session =>
    session < s.sessions.length ∧
      (generation = s.machine.generation ∧ s.machine.state = .connecting ∧
          s.session = some session ∨
        generation < s.machine.generation ∧ s.machine.state = .disconnected) ∧
      (s.loop.Cancelled (.attempt n) ∨ eager)
  | .discovering generation session =>
    generation = s.machine.generation ∧ s.machine.state = .discovering ∧
        s.session = some session ∨
      generation < s.machine.generation
  | .discarding session => session < s.sessions.length ∧ s.session ≠ some session
  | _ => True

/-- Where an attempt may wait that has a successor. -/
def Lags (s : Supervisor δ) (n : Nat) : Point → Prop
  | .attemptStart => False
  | .connecting generation session | .pairing generation session =>
    generation < s.machine.generation ∧ session < s.sessions.length ∧
      s.session ≠ some session ∧ s.loop.Cancelled (.attempt n)
  | .discovering generation _ => generation < s.machine.generation
  | .discarding session => session < s.sessions.length ∧ s.session ≠ some session
  | _ => True

/-- Where an attempt may wait. -/
def Fits (s : Supervisor δ) (n : Nat) (eager : Prop) (point : Point) : Prop :=
  n + 1 = s.attempts ∧ s.Leads n eager point ∨ n + 1 < s.attempts ∧ s.Lags n point

/-- What holds of a supervisor while attempt `running` is under way, if any is.  Nobody else
may write to the store if the supervisor is `alone` with it, and every value that the store
shows is vouched for, given the generation and the session of the connection. -/
structure Inv (cfg : Settings δ) (alone : Prop) (vouch : Nat → Nat → Kind → Float → Prop)
    (running : Option Nat) (s : Supervisor δ) : Prop where
  /-- Every attempt waits where it may. -/
  attempts : ∀ n point, running ≠ some n → s.loop.point? (.attempt n) = some point →
    s.Fits n (s.Eager n) point
  /-- The retry timer is the only one. -/
  retry : ∀ r, .retry r ∈ s.loop.timers → s.retryTimer = some (.retry r)
  /-- The store is offline unless the connection is ready. -/
  offline : s.store.connected = true → s.machine.state = .ready
  online : alone → s.machine.state = .ready → s.store.connected = true
  vouched : ∀ kind value, s.store.read kind = ⟨value, true⟩ → s.machine.state = .ready ∧
    ∃ session, s.session = some session ∧ vouch s.machine.generation session kind value
  /-- There is no session while disconnected. -/
  idle : s.machine.state = .disconnected → s.session = none ∧ s.machine.session = none
  /-- The session of a connection that is up holds its client. -/
  held : s.machine.state = .discovering ∨ s.machine.state = .ready →
    ∃ session, s.session = some session ∧ s.machine.session = some session ∧
      s.isReleased session = false
  /-- A connection that is ready has an ingestion, which works for it. -/
  serving : s.machine.state = .ready → ∃ i session, s.ingestion = some i ∧
    s.session = some session ∧ s.duties[i]? = some ⟨session, s.machine.generation, true⟩
  resting : s.machine.state ≠ .ready → s.ingestion = none
  /-- No other ingestion is armed, or was made for the session in charge. -/
  sole : ∀ i duty, s.duties[i]? = some duty →
    duty.armed = true ∨ s.session = some duty.session → s.ingestion = some i
  known : ∀ duty ∈ s.duties, duty.session < s.sessions.length
  mapped : (∃ mode, cfg.mode = .ok mode) →
    (s.handleMap.isSome = true ↔ s.machine.state = .ready)
  word : Spoken s.machine.isReady s.loop.notices

variable {cfg : Settings δ} {alone : Prop} {vouch : Nat → Nat → Kind → Float → Prop}
  {running : Option Nat} {s s' : Supervisor δ} {n : Nat} {eager : Prop} {point : Point}

/-- An attempt lags on while generations and sessions grow. -/
theorem Lags.mono (lags : s.Lags n point)
    (generation : s.machine.generation ≤ s'.machine.generation)
    (sessions : s.sessions.length ≤ s'.sessions.length)
    (session : ∀ x, x < s.sessions.length → s'.session = some x → s.session = some x)
    (tape : s.loop.tape ⊆ s'.loop.tape) : s'.Lags n point := by
  cases point with
  | connecting g x | pairing g x =>
    obtain ⟨older, opened, other, cancelled⟩ := lags
    exact ⟨Nat.lt_of_lt_of_le older generation, Nat.lt_of_lt_of_le opened sessions,
      fun same => other (session x opened same), tape cancelled⟩
  | discovering g x => exact Nat.lt_of_lt_of_le lags generation
  | discarding x =>
    refine ⟨Nat.lt_of_lt_of_le lags.1 sessions, ?_⟩
    intro same
    exact lags.2 (session x lags.1 same)
  | attemptStart => exact lags
  | forcedStart | forcedClosing | shutdownStart | shutdownClosing | subscriptionStart
  | subscribing | readStart | reading | doomed => trivial

/-- The latest attempt leads on while the connection stays as it is. -/
theorem Leads.mono {eager' : Prop} (leads : s.Leads n eager point)
    (machine : s'.machine = s.machine) (session : s'.session = s.session)
    (sessions : s.sessions.length ≤ s'.sessions.length) (tape : s.loop.tape ⊆ s'.loop.tape)
    (still : eager → eager') : s'.Leads n eager' point := by
  cases point with
  | connecting g x | pairing g x =>
    obtain ⟨opened, stage, kept⟩ := leads
    refine ⟨Nat.lt_of_lt_of_le opened sessions, ?_, ?_⟩
    · rwa [machine, session]
    · exact kept.imp (fun cancelled => tape cancelled) still
  | discovering g x =>
    unfold Leads at leads ⊢
    rwa [machine, session]
  | discarding x => exact ⟨Nat.lt_of_lt_of_le leads.1 sessions, by rw [session]; exact leads.2⟩
  | attemptStart => exact ⟨by rw [machine]; exact leads.1, still leads.2⟩
  | forcedStart | forcedClosing | shutdownStart | shutdownClosing | subscriptionStart
  | subscribing | readStart | reading | doomed => trivial

theorem Fits.mono {eager' : Prop} (fits : s.Fits n eager point)
    (attempts : s'.attempts = s.attempts) (machine : s'.machine = s.machine)
    (session : s'.session = s.session) (sessions : s.sessions.length ≤ s'.sessions.length)
    (tape : s.loop.tape ⊆ s'.loop.tape) (still : eager → eager') : s'.Fits n eager' point := by
  rw [Fits, attempts]
  refine fits.imp (And.imp_right fun leads => ?_) (And.imp_right fun lags => ?_)
  · exact leads.mono machine session sessions tape still
  · apply lags.mono (Nat.le_of_eq (by rw [machine])) sessions _ tape
    intro x _ same
    rwa [session] at same

/-- An attempt waits on where it waited while only the loop changes. -/
theorem Fits.onLoop {eager' : Prop} {loop : Loop δ} (fits : s.Fits n eager point)
    (tape : s.loop.tape ⊆ loop.tape) (still : eager → eager') :
    ({ s with loop } : Supervisor δ).Fits n eager' point :=
  fits.mono rfl rfl rfl (Nat.le_refl _) tape still

/-- Where an attempt may wait in charge, it may wait out of charge once that makes no difference. -/
theorem Fits.weaken {eager' : Prop} (fits : s.Fits n eager point) (still : eager → eager') :
    s.Fits n eager' point :=
  fits.onLoop (List.Subset.refl _) still

/-- A cancelled attempt that has not begun may wait for its end in any state. -/
theorem Fits.doomed {eager' : Prop} (fits : s.Fits n eager point) : s.Fits n eager' .doomed :=
  fits.imp (And.imp_right fun _ => trivial) (And.imp_right fun _ => trivial)

/-- An attempt that has begun may wait where it is once it was cancelled, in charge or not. -/
theorem Fits.cancelled (fits : s.Fits n eager point) (begun : point.isStart = false)
    (cancelled : s.loop.Cancelled (.attempt n)) : s.Fits n False point := by
  refine fits.imp (And.imp_right fun leads => ?_) id
  cases point with
  | attemptStart => cases begun
  | connecting g x | pairing g x => exact ⟨leads.1, leads.2.1, .inl cancelled⟩
  | discovering g x => exact leads
  | discarding x => exact leads
  | forcedStart | forcedClosing | shutdownStart | shutdownClosing | subscriptionStart
  | subscribing | readStart | reading | doomed => trivial

/-- A later generation makes the latest attempt a leftover of a connection. -/
theorem Leads.torn (leads : s.Leads n eager point) :
    s.torn.Leads n eager point := by
  have length : s.torn.sessions.length = s.sessions.length := by
    rw [Supervisor.torn]
    cases s.session <;> simp
  have newer : s.machine.state ≠ .disconnected → s.machine.generation < s.torn.machine.generation :=
    Connection.Machine.generation_lt_dropped
  have notOlder : s.machine.generation ≤ s.torn.machine.generation :=
    Connection.Machine.generation_le_dropped s.machine
  have disconnected : s.torn.machine.state = .disconnected :=
    Connection.Machine.dropped_state s.machine
  cases point with
  | connecting g x | pairing g x =>
    obtain ⟨opened, stage, kept⟩ := leads
    refine ⟨length ▸ opened, .inr ⟨?_, disconnected⟩, kept⟩
    rcases stage with ⟨rfl, connecting, -⟩ | ⟨older, -⟩
    · exact newer (by simp [connecting])
    · exact Nat.lt_of_lt_of_le older notOlder
  | discovering g x =>
    rcases leads with ⟨rfl, discovering, -⟩ | older
    · exact .inr (newer (by simp [discovering]))
    · exact .inr (Nat.lt_of_lt_of_le older notOlder)
  | discarding x => exact ⟨length ▸ leads.1, nofun⟩
  | attemptStart => exact ⟨disconnected, leads.2⟩
  | forcedStart | forcedClosing | shutdownStart | shutdownClosing | subscriptionStart
  | subscribing | readStart | reading | doomed => trivial

theorem Fits.torn (fits : s.Fits n eager point) : s.torn.Fits n eager point := by
  refine fits.imp (And.imp_right Leads.torn) (And.imp_right fun lags => ?_)
  apply lags.mono (Connection.Machine.generation_le_dropped s.machine)
  · unfold Supervisor.torn
    cases s.session <;> simp
  · exact fun _ _ same => nomatch same
  · exact List.Subset.refl _

namespace Inv

/-- At the beginning of a callback the attempt that is running is exempted. -/
theorem enter (inv : Inv cfg alone vouch none s) (n : Nat) : Inv cfg alone vouch (some n) s :=
  { inv with attempts := fun m point _ here => inv.attempts m point nofun here }

/-- The ingestion in charge is armed, and works for the session of a connection that is ready. -/
theorem in_charge (inv : Inv cfg alone vouch running s) {i : Nat} (charge : s.ingestion = some i) :
    s.machine.state = .ready ∧ ∃ g, s.ingestions[i]? = some g ∧ s.session = some g.session ∧
      g.armed = true ∧ g.generation = s.machine.generation := by
  have ready : s.machine.state = .ready := by
    by_contra down
    exact nomatch charge.symm.trans (inv.resting down)
  obtain ⟨j, session, same, own, duty⟩ := inv.serving ready
  obtain rfl : i = j := Option.some.inj (charge.symm.trans same)
  rw [Link.duties, List.getElem?_map, Option.map_eq_some_iff] at duty
  obtain ⟨g, here, duty⟩ := duty
  obtain ⟨rfl, current, armed⟩ := Link.Duty.mk.inj duty
  exact ⟨ready, g, here, own, armed, current⟩

/-- While the connection is not ready, the listeners' report is complete. -/
theorem silent (inv : Inv cfg alone vouch running s) (down : s.machine.state ≠ .ready) :
    Spoken false s.loop.notices := by
  have word := inv.word
  rwa [Connection.Machine.isReady, beq_false_of_ne down] at word

/-- Only the loop changes. -/
theorem onLoop {running' : Option Nat} {loop : Loop δ} (inv : Inv cfg alone vouch running s)
    (attempts : ∀ n point, running' ≠ some n → loop.point? (.attempt n) = some point →
      s.loop.point? (.attempt n) = some point ∧ running ≠ some n ∨
        ({ s with loop } : Supervisor δ).Fits n (s.Eager n) point)
    (timers : ∀ r, .retry r ∈ loop.timers → .retry r ∈ s.loop.timers)
    (tape : s.loop.tape ⊆ loop.tape) (word : Spoken s.machine.isReady loop.notices) :
    Inv cfg alone vouch running' { s with loop } :=
  { inv with
    attempts := by
      intro n point idle here
      rcases attempts n point idle here with ⟨before, was⟩ | fits
      · exact (inv.attempts n point was before).onLoop tape id
      · exact fits
    retry := fun r live => inv.retry r (timers r live)
    word }

/-- Nothing new steers, and the listeners hear nothing. -/
theorem fade {loop : Loop δ} (inv : Inv cfg alone vouch running s) (wanes : s.loop.Wanes [] loop) :
    Inv cfg alone vouch running { s with loop } := by
  apply inv.onLoop
  · intro n point idle here
    obtain ⟨earlier, before, rfl | rfl⟩ := wanes.earlier rfl here
    · exact .inl ⟨before, idle⟩
    · have fits := inv.attempts n earlier idle before
      have later : ({ s with loop } : Supervisor δ).Fits n (s.Eager n) earlier :=
        fits.onLoop wanes.tape id
      exact .inr later.doomed
  · exact fun r => wanes.timers (.retry r) rfl
  · exact wanes.tape
  · rw [wanes.notices, List.append_nil]
    exact inv.word

theorem journals (inv : Inv cfg alone vouch running s) (journals : s.Journals s') :
    Inv cfg alone vouch running s' := by
  obtain ⟨loop, keeps, rfl⟩ := journals
  exact inv.fade keeps.wanes

/-- A task that is not an attempt waits. -/
theorem suspendOther (inv : Inv cfg alone vouch running s) {task : TaskId}
    (other : ∀ n, task ≠ .attempt n) (point : Point) :
    Inv cfg alone vouch running { s with loop := s.loop.suspend task point } := by
  apply inv.onLoop
  · intro n point idle here
    rw [Loop.point?_suspend, if_neg (Ne.symm (other n))] at here
    exact .inl ⟨here, idle⟩
  · exact fun _ live => live
  · exact List.Subset.refl _
  · exact inv.word

/-- A task that is not an attempt waits for a call. -/
theorem awaitOther (inv : Inv cfg alone vouch running s) {task : TaskId}
    (other : ∀ n, task ≠ .attempt n) (session : Nat) (call : Gatt.Call) (point : Point) :
    Inv cfg alone vouch running (s.await task session call point) :=
  (inv.suspendOther other point).fade
    (Loop.Keeps.silent _ (.request task session call) rfl nofun).wanes

/-- A task that is not an attempt is created. -/
theorem spawnOther (inv : Inv cfg alone vouch running s) {task : TaskId}
    (other : ∀ n, task ≠ .attempt n) (point : Point) :
    Inv cfg alone vouch running (s.onLink (·.onLoop (·.spawn task point))) :=
  (inv.suspendOther other point).fade (Loop.Keeps.silent _ (.spawn task) rfl nofun).wanes

/-- A task that is not an attempt ends. -/
theorem finishOther (inv : Inv cfg alone vouch running s) (task : TaskId) (how : Link.Finish) :
    Inv cfg alone vouch running (s.finish task how) :=
  inv.fade (Loop.Wanes.finish s.loop task how)

/-- The attempt that is running ends. -/
theorem finish (inv : Inv cfg alone vouch (some n) s) (how : Link.Finish) :
    Inv cfg alone vouch none (s.finish (.attempt n) how) := by
  apply inv.onLoop
  · intro m point _ here
    rw [Loop.point?_finish] at here
    split at here
    · cases here
    · refine .inl ⟨here, ?_⟩
      rintro ⟨⟩
      contradiction
  · exact fun _ live => live
  · simp
  · rw [Link.Loop.notices_of_tape (Loop.tape_finish s.loop _ how) rfl]
    exact inv.word

/-- The attempt that is running waits where it may. -/
theorem suspend (inv : Inv cfg alone vouch (some n) s) (fits : s.Fits n (s.Eager n) point) :
    Inv cfg alone vouch none { s with loop := s.loop.suspend (.attempt n) point } := by
  apply inv.onLoop
  · intro m other _ here
    rw [Loop.point?_suspend] at here
    by_cases same : m = n
    · subst same
      rw [if_pos rfl, Option.some.injEq] at here
      subst here
      exact .inr (fits.weaken id)
    · rw [if_neg (by simpa using same)] at here
      exact .inl ⟨here, by simpa using Ne.symm same⟩
  · exact fun _ live => live
  · exact List.Subset.refl _
  · exact inv.word

/-- The attempt that is running waits for a call. -/
theorem await (inv : Inv cfg alone vouch (some n) s) (session : Nat) (call : Gatt.Call)
    (fits : s.Fits n (s.Eager n) point) :
    Inv cfg alone vouch none (s.await (.attempt n) session call point) :=
  (inv.suspend fits).fade
    (Loop.Keeps.silent _ (.request (.attempt n) session call) rfl nofun).wanes

/-- The duties after a teardown: the ingestion in charge is disarmed. -/
theorem duties_torn (s : Supervisor δ) :
    s.torn.duties = s.ingestion.elim s.duties fun i =>
      s.duties.modify i fun duty => { duty with armed := false } := by
  unfold Supervisor.torn Link.duties
  cases s.ingestion with
  | none => rfl
  | some i =>
    exact Link.map_modify_of (fun duty : Link.Duty => { duty with armed := false })
      (fun _ => rfl) s.ingestions i

theorem length_sessions_torn (s : Supervisor δ) :
    s.torn.sessions.length = s.sessions.length := by
  rw [Supervisor.torn]
  cases s.session <;> simp

/-- An ingestion's duty after a teardown was its duty before, but for the one in charge. -/
theorem duty_torn {i : Nat} {duty : Link.Duty} (here : s.torn.duties[i]? = some duty) :
    ∃ before, s.duties[i]? = some before ∧ duty.session = before.session ∧
      (duty.armed = true → before.armed = true ∧ s.ingestion ≠ some i) := by
  rw [duties_torn] at here
  cases charge : s.ingestion with
  | none =>
    rw [charge, Option.elim_none] at here
    exact ⟨duty, here, rfl, fun armed => ⟨armed, nofun⟩⟩
  | some j =>
    rw [charge, Option.elim_some, List.getElem?_modify] at here
    obtain ⟨before, known, rfl⟩ := Option.map_eq_some_iff.mp here
    refine ⟨before, known, ?_, ?_⟩
    · split <;> rfl
    · intro armed
      by_cases same : j = i
      · simp [same] at armed
      · exact ⟨by simpa [same] using armed, by simpa using same⟩

theorem torn {loop : Loop δ} (inv : Inv cfg alone vouch running s)
    (wanes : s.loop.Wanes s.partingNotices loop) :
    Inv cfg alone vouch running { s.torn with loop } where
  attempts n point idle here := by
    obtain ⟨earlier, before, same⟩ := wanes.earlier rfl here
    have fits := (inv.attempts n earlier idle before).torn
    have later : ({ s.torn with loop } : Supervisor δ).Fits n (s.Eager n) earlier :=
      fits.onLoop wanes.tape id
    rcases same with rfl | rfl
    · exact later
    · exact later.doomed
  retry r live := inv.retry r (wanes.timers (.retry r) rfl live)
  offline online := nomatch online
  online _ ready := by simp [Supervisor.torn] at ready
  vouched kind value shown := by
    simp [Supervisor.torn, Store.setConnected, Store.read] at shown
  idle _ := ⟨rfl, Connection.Machine.dropped_session fun idle => (inv.idle idle).2⟩
  held up := by simp [Supervisor.torn] at up
  serving ready := by simp [Supervisor.torn] at ready
  resting _ := rfl
  sole i duty here busy := by
    obtain ⟨before, known, -, armed⟩ := duty_torn here
    rcases busy with stillArmed | inCharge
    · obtain ⟨wasArmed, other⟩ := armed stillArmed
      exact absurd (inv.sole i before known (.inl wasArmed)) other
    · cases inCharge
  known duty here := by
    obtain ⟨i, here⟩ := List.mem_iff_getElem?.mp here
    obtain ⟨before, known, same, -⟩ := duty_torn here
    rw [same]
    exact Nat.lt_of_lt_of_eq (inv.known before (List.mem_of_getElem? known))
      (length_sessions_torn s).symm
  mapped _ := by simp [Supervisor.torn]
  word := by
    have offline : s.torn.machine.isReady = false := by
      simp [Connection.Machine.isReady, Supervisor.torn]
    rw [wanes.notices]
    show Spoken s.torn.machine.isReady _
    rw [offline, partingNotices]
    have word := inv.word
    by_cases ready : s.machine.isReady = true
    · rw [ready] at word
      rw [if_pos ready]
      exact word.lost
    · rw [Bool.not_eq_true] at ready
      rw [ready] at word
      simpa [ready] using word

end Inv

end Supervisor

end SensorLink
