/-
# What the supervisor leaves alone

While the supervisor steers the connection it leaves the ingestions alone: its tasks read
nothing, and the timers that it keeps for itself are no ticks.  Only a teardown reaches
for an ingestion, the one in charge, which it disarms.

`Leaves` follows the operations of the supervisor one by one, and `Yields` those that
may come to a teardown.
-/

import SensorLink.Proofs.Ingestion.Sparing
import SensorLink.Proofs.Supervisor.Congruence

namespace SensorLink

open Gatt (Ending)
open Link (Effect Settings Surroundings TaskId TimerId)

/-- A timer that steers the connection is no tick. -/
theorem Link.TimerId.tick?_eq_none {timer : TimerId} (steers : timer.steers = true) (i : Nat) :
    timer.tick? i = none := by
  cases timer with
  | tick => cases steers
  | retry | discovery => rfl

/-- A task that steers the connection reads nothing. -/
theorem Link.TaskId.ne_read {task : TaskId} (steers : task.steers = true) (i : Nat)
    (kind : Sensor.Kind) (n : Nat) : task ≠ .read i kind n := by
  rintro rfl
  cases steers

namespace Supervisor

variable {δ : Type} {s s' s'' : Supervisor δ} {cfg : Settings δ} {env : Surroundings} {i : Nat}
  {task : TaskId}

/-- The timers that a supervisor keeps for itself steer the connection. -/
structure Steered (s : Supervisor δ) : Prop where
  retry : ∀ timer, s.retryTimer = some timer → timer.steers = true
  limit : ∀ timer, s.discoveryTimer = some timer → timer.steers = true

/-- All ingestions are left alone. -/
def Leaves (s s' : Supervisor δ) : Prop :=
  s.Steered → s'.Steered ∧ s'.ingestions = s.ingestions ∧ ∀ i, Link.Spares i s.toLink s'.toLink

namespace Leaves

theorem refl (s : Supervisor δ) : Leaves s s :=
  fun steered => ⟨steered, rfl, fun i => .refl i s.toLink⟩

theorem trans (first : Leaves s s') (second : Leaves s' s'') : Leaves s s'' := by
  intro steered
  obtain ⟨steered', same, spares⟩ := first steered
  obtain ⟨steered'', same', spares'⟩ := second steered'
  exact ⟨steered'', same'.trans same, fun i => (spares i).trans (spares' i)⟩

/-- The link stays as it is. -/
theorem of_link (link : s'.toLink = s.toLink) (steered : s.Steered → s'.Steered) :
    Leaves s s' :=
  fun before => ⟨steered before, by rw [link], fun i => link ▸ .refl i s.toLink⟩

/-- The link and the timers stay as they are. -/
theorem of_same (link : s'.toLink = s.toLink) (retry : s'.retryTimer = s.retryTimer)
    (limit : s'.discoveryTimer = s.discoveryTimer) : Leaves s s' :=
  of_link link fun steered => ⟨retry ▸ steered.retry, limit ▸ steered.limit⟩

/-- The link changes, but not the ingestions. -/
theorem onLink (s : Supervisor δ) {f : Link δ → Link δ}
    (same : (f s.toLink).ingestions = s.ingestions)
    (spares : ∀ i, Link.Spares i s.toLink (f s.toLink)) : Leaves s (s.onLink f) :=
  fun steered => ⟨⟨steered.retry, steered.limit⟩, same, spares⟩

theorem tell (s : Supervisor δ) {e : Effect δ} (silent : ∀ i, e.issue? i = none) :
    Leaves s (s.tell e) :=
  onLink s rfl fun i => .emit s.toLink (silent i)

theorem record (s : Supervisor δ) (cfg : Settings δ) (r : Journal.Record) :
    Leaves s (s.onLink (·.record cfg r)) := by
  refine onLink s ?_ fun i => .record i s.toLink cfg r
  unfold Link.record
  split <;> rfl

theorem say (s : Supervisor δ) (cfg : Settings δ) (level : Journal.Level) (text : String) :
    Leaves s (s.say cfg level text) :=
  record s cfg _

theorem complain (s : Supervisor δ) (cfg : Settings δ) (text : String) (f : Failure) :
    Leaves s (s.complain cfg text f) :=
  record s cfg _

theorem records (s : Supervisor δ) (cfg : Settings δ) (rs : List Journal.Record) :
    Leaves s (s.onLink fun l => rs.foldl (fun l r => l.record cfg r) l) := by
  induction rs generalizing s with
  | nil => exact refl s
  | cons r rest ih => exact (record s cfg r).trans (ih (s.onLink (·.record cfg r)))

theorem listTree {tree : Gatt.Tree} (listed : s.listTree cfg tree = .ok s') : Leaves s s' := by
  unfold Supervisor.listTree at listed
  split at listed
  · cases text : tree.listing with
    | error f => simp [text, Except.map] at listed
    | ok text =>
      simp only [‹tree.listing = _›, Except.map, Except.ok.injEq] at listed
      rw [← listed]
      exact say s cfg _ _
  · cases listed
    exact refl s

theorem showHandles (s : Supervisor δ) (cfg : Settings δ) (handles : Gatt.HandleMap) :
    Leaves s (s.showHandles cfg handles) := by
  unfold Supervisor.showHandles
  split
  · exact say s cfg _ _
  · exact refl s

theorem report {failure : Option Failure} (leaves : Leaves s s') :
    Leaves s (report (s', failure)) := by
  unfold Supervisor.report
  cases failure with
  | none => exact leaves
  | some f => exact leaves.trans (tell s' fun _ => rfl)

theorem finish (s : Supervisor δ) (how : Link.Finish) (steers : task.steers = true) :
    Leaves s (s.finish task how) :=
  onLink s rfl fun i => .finish s.toLink how (TaskId.ne_read steers i)

theorem finishWith {outcome : Supervisor δ × Option Failure} (leaves : Leaves s outcome.1)
    (steers : task.steers = true) : Leaves s (finishWith task outcome) :=
  leaves.trans (finish _ _ steers)

theorem await (s : Supervisor δ) (session : Nat) (call : Gatt.Call) (point : Link.Point)
    (steers : task.steers = true) : Leaves s (s.await task session call point) :=
  onLink s rfl fun i => .await s.toLink session call point (TaskId.ne_read steers i)

theorem spawn (s : Supervisor δ) (point : Link.Point) (steers : task.steers = true) :
    Leaves s (s.onLink (·.onLoop (·.spawn task point))) :=
  onLink s rfl fun i => .spawn s.toLink point (TaskId.ne_read steers i)

theorem release (s : Supervisor δ) (session : Nat) : Leaves s (s.onLink (·.release session)) :=
  onLink s rfl fun _ => .of_same rfl rfl

theorem forget (s : Supervisor δ) (session : Nat) : Leaves s (s.forget session) := by
  unfold Supervisor.forget
  split
  · exact of_same rfl rfl rfl
  · exact refl s

theorem transition (s : Supervisor δ) (cfg : Settings δ) (target : Connection.State)
    (session : Option Nat) : Leaves s (s.onLink (·.transition cfg target session)) := by
  refine onLink s ?_ fun i => .transition i s.toLink cfg target session
  unfold Link.transition Link.record
  dsimp only
  split <;> rfl

theorem dropState (s : Supervisor δ) (cfg : Settings δ) : Leaves s (s.dropState cfg) := by
  unfold Supervisor.dropState
  split
  · exact refl s
  · exact transition s cfg _ _

theorem checkLink (s : Supervisor δ) (cfg : Settings δ) (env : Surroundings) (session : Nat) :
    Leaves s (s.checkLink cfg env session).1 := by
  unfold Supervisor.checkLink
  split
  · exact refl s
  · split
    · exact refl s
    · exact record s cfg _

theorem unschedule (s : Supervisor δ) {timer : TimerId} (steers : timer.steers = true) :
    Leaves s (s.onLink (·.onLoop (·.unschedule timer))) :=
  onLink s rfl fun i => .unschedule s.toLink (TimerId.tick?_eq_none steers i)

theorem schedule (s : Supervisor δ) {timer : TimerId} (wait : Link.Wait δ)
    (steers : timer.steers = true) : Leaves s (s.onLink (·.onLoop (·.schedule timer wait))) :=
  onLink s rfl fun i => .schedule s.toLink wait (TimerId.tick?_eq_none steers i)

/-- The timer of the next attempt takes the place of an earlier one. -/
theorem scheduleConnect (s : Supervisor δ) (delay : δ) : Leaves s (s.scheduleConnect delay) := by
  unfold Supervisor.scheduleConnect
  split
  · exact refl s
  · have timed (t : Supervisor δ) (r : Nat) : Leaves t
        { t.onLink (·.onLoop (·.schedule (.retry r) (.delay delay))) with
          retryTimer := some (.retry r), retries := r + 1 } := by
      refine (schedule t _ rfl).trans (of_link rfl fun steered => ⟨?_, steered.limit⟩)
      rintro _ ⟨⟩
      rfl
    dsimp only
    cases known : s.retryTimer with
    | none => exact timed s s.retries
    | some timer =>
      exact fun steered =>
        ((unschedule s (steered.retry timer known)).trans (timed _ s.retries)) steered

theorem scheduleRetry (s : Supervisor δ) (cfg : Settings δ) :
    Leaves s (s.scheduleRetry cfg).1 := by
  unfold Supervisor.scheduleRetry
  split
  · exact refl s
  · have counted : Leaves s { s with failures := s.failures + 1 } := of_same rfl rfl rfl
    exact (counted.trans (say _ cfg _ _)).trans (scheduleConnect _ _)

theorem cancelDiscoveryTimer (s : Supervisor δ) : Leaves s s.cancelDiscoveryTimer := by
  intro steered
  have untimed (t : Supervisor δ) : Leaves t { t with discoveryTimer := none } :=
    of_link rfl fun steered => ⟨steered.retry, by simp⟩
  unfold Supervisor.cancelDiscoveryTimer
  split
  · rename_i timer known
    exact ((unschedule s (steered.limit timer known)).trans (untimed _)) steered
  · exact refl s steered

theorem tellLost (s : Supervisor δ) (cfg : Settings δ) (env : Surroundings) :
    Leaves s (s.tellLost cfg env) := by
  have told : Leaves s (s.tell .lost) := tell s fun _ => rfl
  unfold Supervisor.tellLost
  split
  · exact told.trans (record _ cfg _)
  · exact told

theorem tellReady (s : Supervisor δ) (cfg : Settings δ) (env : Surroundings) :
    Leaves s (s.tellReady cfg env) := by
  have told : Leaves s (s.tell .ready) := tell s fun _ => rfl
  unfold Supervisor.tellReady
  split
  · exact told.trans (record _ cfg _)
  · exact told

theorem beginAttempt (s : Supervisor δ) : Leaves s s.beginAttempt := by
  have untimed : Leaves s { s with retryTimer := none } :=
    of_link rfl fun steered => ⟨nofun, steered.limit⟩
  unfold Supervisor.beginAttempt
  dsimp only
  split
  · exact untimed
  · exact (untimed.trans (spawn _ _ rfl)).trans (of_same rfl rfl rfl)

theorem failAttempt (s : Supervisor δ) (cfg : Settings δ) (session : Option Nat) :
    Leaves s (s.failAttempt cfg session).1 := by
  refine trans (trans ?_ (dropState _ cfg)) (scheduleRetry _ cfg)
  cases session with
  | none => exact refl s
  | some session => exact (release s session).trans (forget _ session)

theorem openSession (s : Supervisor δ) (n generation : Nat) :
    Leaves s (s.openSession n generation) := by
  have opened : Leaves s
      (s.onLink fun l => { l with sessions := l.sessions ++ [⟨generation, false⟩] }) :=
    onLink s rfl fun _ => .of_same rfl rfl
  have charged (t : Supervisor δ) (session : Nat) : Leaves t { t with session := some session } :=
    of_same rfl rfl rfl
  have told := opened.trans (tell _ (e := .opened s.sessions.length) fun _ => rfl)
  exact (told.trans (charged _ _)).trans (await _ _ _ _ rfl)

theorem startAttempt (s : Supervisor δ) (cfg : Settings δ) (env : Surroundings) (n : Nat) :
    Leaves s (s.startAttempt cfg env n) := by
  have entered := (transition s cfg .connecting none).trans (say _ cfg .info
    ("Connecting to " ++ cfg.address ++ " (attempt " ++ toString (s.failures + 1) ++ ")"))
  unfold Supervisor.startAttempt
  dsimp only
  split
  · refine entered.trans (finishWith ?_ rfl)
    exact ((tell _ fun _ => rfl).trans (complain _ cfg _ _)).trans (failAttempt _ cfg none)
  · exact entered.trans (openSession _ n _)

theorem connectFailed (s : Supervisor δ) (cfg : Settings δ) (n session : Nat) (f : Failure) :
    Leaves s (s.connectFailed cfg n session f) := by
  unfold Supervisor.connectFailed
  dsimp only
  refine finishWith (trans ?_ (failAttempt _ cfg _)) rfl
  split
  · exact say s cfg _ _
  · exact complain s cfg _ _

theorem finishDiscard (s : Supervisor δ) (n session : Nat) : Leaves s (s.finishDiscard n session) :=
  ((release s session).trans (forget _ session)).trans (finish _ _ rfl)

theorem discard (s : Supervisor δ) (cfg : Settings δ) (env : Surroundings) (n session : Nat) :
    Leaves s (s.discard cfg env n session) := by
  have checked := (say s cfg .debug ("Dropping superseded connection to " ++ cfg.address)).trans
    (checkLink _ cfg env session)
  unfold Supervisor.discard
  dsimp only
  split
  · exact checked.trans (await _ _ _ _ rfl)
  · exact checked.trans (finishDiscard _ n session)

theorem startDiscovery (s : Supervisor δ) (cfg : Settings δ) (n generation session : Nat) :
    Leaves s (s.startDiscovery cfg n generation session) := by
  have waits (t : Supervisor δ) : Leaves t (t.onLink (·.onLoop fun loop =>
      (loop.suspend (.attempt n) (.discovering generation session)).emit
        (.requestTree (.attempt n) session))) :=
    onLink t rfl fun i =>
      (Link.Spares.suspend t.toLink _ (TaskId.ne_read rfl i)).trans (.emit _ rfl)
  unfold Supervisor.startDiscovery
  cases cfg.discoveryLimit with
  | none => exact waits s
  | some limit =>
    have timed : Leaves s
        { s.onLink (·.onLoop (·.schedule (.discovery n generation) (.delay limit))) with
          discoveryTimer := some (.discovery n generation) } := by
      refine (schedule s _ rfl).trans (of_link rfl fun steered => ⟨steered.retry, ?_⟩)
      rintro _ ⟨⟩
      rfl
    exact timed.trans (waits _)

theorem linkUp (s : Supervisor δ) (cfg : Settings δ) (env : Surroundings)
    (n generation session : Nat) : Leaves s (s.linkUp cfg env n generation session) := by
  unfold Supervisor.linkUp
  split
  · have checked := checkLink s cfg env session
    dsimp only
    split
    · exact ((checked.trans (say _ cfg _ _)).trans (transition _ cfg _ _)).trans
        (startDiscovery _ cfg n generation session)
    · exact (checked.trans (say _ cfg _ _)).trans (finishWith (failAttempt _ cfg _) rfl)
  · exact discard s cfg env n session

theorem transportUp (s : Supervisor δ) (cfg : Settings δ) (env : Surroundings)
    (n generation session : Nat) : Leaves s (s.transportUp cfg env n generation session) := by
  unfold Supervisor.transportUp
  split
  · exact linkUp s cfg env n generation session
  · exact (say s cfg _ _).trans (await _ _ _ _ rfl)

theorem resumeConnecting (s : Supervisor δ) (cfg : Settings δ) (env : Surroundings)
    (n generation session : Nat) (ending : Ending) :
    Leaves s (s.resumeConnecting cfg env n generation session ending) := by
  unfold Supervisor.resumeConnecting
  split
  · exact finish s _ rfl
  · exact transportUp s cfg env n generation session
  · exact connectFailed s cfg n session _

theorem resumePairing (s : Supervisor δ) (cfg : Settings δ) (env : Surroundings)
    (n generation session : Nat) (ending : Ending) :
    Leaves s (s.resumePairing cfg env n generation session ending) := by
  unfold Supervisor.resumePairing
  split
  · exact finish s _ rfl
  · exact linkUp s cfg env n generation session
  · exact connectFailed s cfg n session _

theorem resumeDiscarding (s : Supervisor δ) (cfg : Settings δ) (n session : Nat)
    (ending : Ending) : Leaves s (s.resumeDiscarding cfg n session ending) := by
  unfold Supervisor.resumeDiscarding
  split
  · exact finish s _ rfl
  · exact finishDiscard s n session
  · split
    · exact (say s cfg _ _).trans (finishDiscard _ n session)
    · exact finish s _ rfl

theorem discoveryExpired (s : Supervisor δ) (cfg : Settings δ) (n generation : Nat) :
    Leaves s (s.discoveryExpired cfg n generation) := by
  have untimed : Leaves s { s with discoveryTimer := none } :=
    of_link rfl fun steered => ⟨steered.retry, by simp⟩
  unfold Supervisor.discoveryExpired
  dsimp only
  split
  · exact (untimed.trans (say _ cfg _ _)).trans (spawn _ _ rfl)
  · exact untimed

theorem start (s : Supervisor δ) (cfg : Settings δ) : Leaves s (s.start cfg) := by
  have runs : Leaves s { s with stopped := false, failures := 0 } := of_same rfl rfl rfl
  unfold Supervisor.start
  split
  · exact runs.trans (scheduleConnect _ _)
  · exact refl s

theorem requestShutdown (s : Supervisor δ) : Leaves s s.requestShutdown :=
  (spawn s _ rfl).trans (of_same rfl rfl rfl)

theorem stopAttempts (s : Supervisor δ) : Leaves s s.stopAttempts := by
  intro steered
  rw [stopAttempts_eq]
  refine ⟨⟨by simp, steered.limit⟩, rfl, fun i => ?_⟩
  have untimed : Link.Spares i s.toLink
      (s.toLink.onLoop fun loop => s.retryTimer.elim loop loop.unschedule) := by
    cases known : s.retryTimer with
    | none => exact .refl i s.toLink
    | some timer =>
      exact .unschedule s.toLink (TimerId.tick?_eq_none (steered.retry timer known) i)
  unfold stoppedLoop
  cases s.attempt with
  | none => exact untimed
  | some n => exact untimed.trans (.cancel i _ (.attempt n))

end Leaves

/-- An ingestion is left alone, or it is disarmed and otherwise left alone.  None is created. -/
def Yields (i : Nat) (s s' : Supervisor δ) : Prop :=
  s.Steered → s.toLink.Owned → s'.Steered ∧ s'.ingestions.length = s.ingestions.length ∧
    (Link.Spares i s.toLink s'.toLink ∨
      ∃ l, Link.Spares i s.toLink l ∧ Link.Spares i (l.disarm i) s'.toLink)

theorem Leaves.yields (leaves : Leaves s s') (i : Nat) : Yields i s s' := by
  intro steered _
  obtain ⟨steered', same, spares⟩ := leaves steered
  exact ⟨steered', congrArg _ same, .inl (spares i)⟩

namespace Yields

theorem before (second : Yields i s' s'') (first : Leaves s s') : Yields i s s'' := by
  intro steered owned
  obtain ⟨steered', same, spares⟩ := first steered
  obtain ⟨steered'', length, yields⟩ := second steered' (owned.of_ingestions same)
  refine ⟨steered'', length.trans (congrArg _ same), yields.imp (spares i).trans ?_⟩
  exact fun ⟨l, early, late⟩ => ⟨l, (spares i).trans early, late⟩

theorem after (first : Yields i s s') (second : Leaves s' s'') : Yields i s s'' := by
  intro steered owned
  obtain ⟨steered', length, yields⟩ := first steered owned
  obtain ⟨steered'', same, spares⟩ := second steered'
  refine ⟨steered'', (congrArg _ same).trans length, yields.imp (·.trans (spares i)) ?_⟩
  exact fun ⟨l, early, late⟩ => ⟨l, early, late.trans (spares i)⟩

theorem dropIngestion (i : Nat) (s : Supervisor δ) : Yields i s s.dropIngestion := by
  intro steered owned
  unfold Supervisor.dropIngestion
  split
  · rename_i j _
    have length : (s.toLink.disarm j).ingestions.length = s.ingestions.length := by
      obtain ⟨loop, -, disarmed⟩ := s.toLink.disarm_eq j
      rw [disarmed, List.length_modify]
    refine ⟨⟨steered.retry, steered.limit⟩, length, ?_⟩
    by_cases charge : j = i
    · subst charge
      exact .inr ⟨s.toLink, .refl j _, .refl j _⟩
    · exact .inl (.disarm charge owned)
  · exact ⟨steered, rfl, .inl (.refl i _)⟩

/-- A teardown disarms the ingestion in charge. -/
theorem teardown (i : Nat) (s : Supervisor δ) (cfg : Settings δ) (env : Surroundings) :
    Yields i s (s.teardown cfg env) := by
  have dropped := (dropIngestion i s.cancelDiscoveryTimer).before (.cancelDiscoveryTimer s)
  have unmapped (t : Supervisor δ) : Leaves t { t with handleMap := none } :=
    .of_same rfl rfl rfl
  have offline (t : Supervisor δ) :
      Leaves t (t.onLink fun l => { l with store := l.store.setConnected false }) :=
    .onLink t rfl fun _ => .of_same rfl rfl
  have left (t : Supervisor δ) : Leaves t t.dropSession := by
    unfold dropSession
    split
    · exact (Leaves.release t _).trans (.of_same rfl rfl rfl)
    · exact .refl t
  have torn := dropped.after
    ((((unmapped _).trans (left _)).trans (.dropState _ cfg)).trans (offline _))
  rw [teardown_parts]
  dsimp only
  split
  · exact torn.after (.tellLost _ cfg env)
  · exact torn

theorem connectionLost (i : Nat) (s : Supervisor δ) (cfg : Settings δ) (env : Surroundings)
    (generation : Int) : Yields i s (s.connectionLost cfg env generation).1 := by
  have torn := ((teardown i _ cfg env).before (.say s cfg .warning
    ("Disconnected from " ++ cfg.address))).after (.scheduleRetry _ cfg)
  unfold Supervisor.connectionLost
  split
  · split
    · exact (Leaves.say s cfg _ _).yields i
    · exact (Leaves.refl s).yields i
    · exact torn
    · exact torn
  · exact (Leaves.say s cfg _ _).yields i

theorem finishForced (i : Nat) (s : Supervisor δ) (cfg : Settings δ) (env : Surroundings)
    (n generation : Nat) : Yields i s (s.finishForced cfg env n generation) :=
  (connectionLost i s cfg env generation).after (.finish _ _ rfl)

theorem forcedFailed (i : Nat) (s : Supervisor δ) (cfg : Settings δ) (env : Surroundings)
    (n generation : Nat) (f : Failure) : Yields i s (s.forcedFailed cfg env n generation f) := by
  unfold Supervisor.forcedFailed
  split
  · exact (finishForced i _ cfg env n generation).before (.say s cfg _ _)
  · exact (Leaves.finish s _ rfl).yields i

theorem startForced (i : Nat) (s : Supervisor δ) (cfg : Settings δ) (env : Surroundings)
    (n : Nat) (session : Option Nat) (generation : Nat) :
    Yields i s (s.startForced cfg env n session generation) := by
  unfold Supervisor.startForced
  split
  · exact finishForced i s cfg env n generation
  · split
    · exact forcedFailed i s cfg env n generation _
    · exact (Leaves.await s _ _ _ rfl).yields i

theorem resumeForced (i : Nat) (s : Supervisor δ) (cfg : Settings δ) (env : Surroundings)
    (n generation : Nat) (ending : Ending) :
    Yields i s (s.resumeForced cfg env n generation ending) := by
  unfold Supervisor.resumeForced
  split
  · exact (Leaves.finish s _ rfl).yields i
  · exact finishForced i s cfg env n generation
  · exact forcedFailed i s cfg env n generation _

theorem finishShutdown (i : Nat) (s : Supervisor δ) (cfg : Settings δ) (env : Surroundings)
    (n : Nat) : Yields i s (s.finishShutdown cfg env n) :=
  (teardown i s cfg env).after ((Leaves.say _ cfg _ _).trans (.finish _ _ rfl))

theorem startShutdown (i : Nat) (s : Supervisor δ) (cfg : Settings δ) (env : Surroundings)
    (n : Nat) : Yields i s (s.startShutdown cfg env n) := by
  have stopped := Leaves.stopAttempts s
  unfold Supervisor.startShutdown
  dsimp only
  split
  · exact (finishShutdown i _ cfg env n).before stopped
  · rename_i session _
    have checked := stopped.trans (.checkLink _ cfg env session)
    split
    · exact (checked.trans (.await _ _ _ _ rfl)).yields i
    · exact (finishShutdown i _ cfg env n).before checked

theorem resumeShutdown (i : Nat) (s : Supervisor δ) (cfg : Settings δ) (env : Surroundings)
    (n : Nat) (ending : Ending) : Yields i s (s.resumeShutdown cfg env n ending) := by
  unfold Supervisor.resumeShutdown
  split
  · exact (Leaves.finish s _ rfl).yields i
  · exact finishShutdown i s cfg env n
  · split
    · exact (finishShutdown i _ cfg env n).before (.say s cfg _ _)
    · exact (Leaves.finish s _ rfl).yields i

end Yields

end Supervisor

end SensorLink
