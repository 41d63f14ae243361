/-
# A start while a shutdown is pending

A supervisor may be started again while a shutdown still waits for the session in
charge to close.  The teardown at the end of the shutdown spares what belongs to the
next attempt only as long as it is a timer or an attempt that has not begun.  A
connection that is being made is taken down with the rest.  And a timer that went off
while the old connection was up is of no use any more, for no attempt may begin then.
So the start may come to nothing.
-/

import SensorLink.Proofs.Ingestion.Ownership
import SensorLink.Proofs.Supervisor.Congruence
import SensorLink.Proofs.Supervisor.Pace
import SensorLink.Proofs.Supervisor.Shutdown

namespace SensorLink

open Gatt (Ending)
open Link (AlikeOwned Loop Point Settings Surroundings TaskId TimerId)
open Sensor (Kind)

namespace Supervisor

variable {δ : Type} {cfg : Settings δ} {alone : Prop} {vouch : Nat → Nat → Kind → Float → Prop}
  {s s' : Supervisor δ} {env : Surroundings} {event : Event} {n opened : Nat}
  {past : List (Moment δ)}

/-- The supervisor has a connection of its own, or works on one: a timer is live for the next
attempt, an attempt has not begun or drives the connection, or a connection is up whose session
is not among the first `opened` ones. -/
def Pursues (s : Supervisor δ) (opened : Nat) : Prop :=
  (∃ r, s.Due r) ∨ (∃ n, s.Ready n) ∨
    (s.machine.state = .connecting ∧ ∃ n call, s.Connects n call) ∨
    ((s.machine.state = .discovering ∨ s.machine.state = .ready) ∧
      ∃ x, s.session = some x ∧ opened ≤ x)

/-- Whatever happens, every ingestion waits for what is its own. -/
theorem owned_step (owned : s.toLink.Owned) (cfg : Settings δ) (env : Surroundings)
    (event : Event) : (s.step cfg env event).toLink.Owned := by
  have same {s : Supervisor δ} (owned : s.toLink.Owned) : Over AlikeOwned s s :=
    ⟨s.toLink, ⟨owned, .refl _⟩, rfl⟩
  have notified (i : Nat) (handle : Option Int) (payload : List UInt8) :
      (s.step cfg env (.notified i handle payload)).toLink.Owned := by
    rw [step_notified]
    exact (owned.notified cfg env i handle payload).report
  have inner (inner : event.isInner = true) : Over AlikeOwned (s.step cfg env event)
      (s.step (cfg.keeping cfg.threshold) env event) :=
    (same owned).inner cfg cfg.threshold (fun kind => Link.AlikeOwned.works cfg cfg.threshold kind)
      (fun _ => rfl) (fun i handle payload => same (notified i handle payload)) inner
  exact ((same owned).step cfg cfg.threshold ⟨rfl, rfl, rfl⟩ event inner fun _ _ => rfl).link.1

theorem Run.owned (run : Run cfg past s) : s.toLink.Owned := by
  induction run with
  | fresh => exact fun i g here => nomatch here
  | step m run lawful ih => exact owned_step ih cfg m.env m.event

/-- Only the limit of a discovery is ever kept as the timer of the discovery. -/
theorem Pace.limit (pace : Pace cfg s event s') {timer : TimerId}
    (known : s'.discoveryTimer = some timer) :
    s.discoveryTimer = some timer ∨ ∃ n g, timer = .discovery n g := by
  cases pace with
  | paces paces =>
    cases paces with
    | calm calm => exact calm.limit timer known
    | retries _ _ _ retimes => exact retimes.limit timer known
  | starts _ _ _ retimes => exact retimes.limit timer known
  | creates _ _ quiet => exact quiet.limit timer known
  | opens _ _ quiet => exact quiet.limit timer known
  | readies _ quiet => exact quiet.limit timer known

theorem Run.limit (run : Run cfg past s) (obedient : ∀ m ∈ past, m.Obedient) {timer : TimerId}
    (known : s.discoveryTimer = some timer) : ∃ n g, timer = .discovery n g := by
  revert known
  refine run.preserves obedient nofun fun m run obedient lawful _ ih known => ?_
  exact ((Pace.step (run.inv obedient) lawful).limit known).elim ih id

theorem keeps_dropIngestion (owned : s.toLink.Owned) : s.loop.Keeps [] s.dropIngestion.loop := by
  rw [dropIngestion]
  split
  · rename_i i _
    obtain ⟨loop, keeps, disarmed⟩ := owned.disarm_eq i
    rw [onLink, disarmed]
    exact keeps
  · exact .refl _

/-- A teardown spares what steers the connection, except for the timer of the discovery. -/
theorem teardown_keeps (owned : s.toLink.Owned) (cfg : Settings δ) (env : Surroundings) :
    ∃ loop, s.untimedLoop.Keeps s.partingNotices loop ∧
      s.teardown cfg env = { s.torn with loop } := by
  obtain ⟨loop, keeps, torn⟩ := s.teardown_dropped cfg env
  have untimed : s.cancelDiscoveryTimer.toLink.Owned := by
    rw [cancelDiscoveryTimer_eq]
    exact owned.onLoop fun _ => s.untimedLoop
  have dropped := keeps_dropIngestion untimed
  rw [cancelDiscoveryTimer_eq] at dropped keeps
  exact ⟨loop, dropped.trans keeps, torn⟩

theorem point?_untimedLoop (s : Supervisor δ) (task : TaskId) :
    s.untimedLoop.point? task = s.loop.point? task := by
  rw [untimedLoop]
  cases s.discoveryTimer <;> rfl

theorem mem_untimedLoop_retry (limit : ∀ timer, s.discoveryTimer = some timer →
    ∃ n g, timer = .discovery n g) (r : Nat) :
    .retry r ∈ s.untimedLoop.timers ↔ s.Due r := by
  rw [untimedLoop]
  cases known : s.discoveryTimer with
  | none => exact Iff.rfl
  | some timer =>
    obtain ⟨n, g, rfl⟩ := limit timer known
    rw [Option.elim_some, Loop.mem_timers_unschedule, and_iff_left (by simp)]
    exact Iff.rfl

/-- The end of a shutdown moves no attempt and takes no retry back. -/
theorem finishShutdown_spares (owned : s.toLink.Owned) (limit : ∀ timer,
    s.discoveryTimer = some timer → ∃ n g, timer = .discovery n g) (cfg : Settings δ)
    (env : Surroundings) (n : Nat) :
    (∀ m, (s.finishShutdown cfg env n).loop.point? (.attempt m) = s.loop.point? (.attempt m)) ∧
      ∀ r, (s.finishShutdown cfg env n).Due r ↔ s.Due r := by
  obtain ⟨loop, keeps, torn⟩ := teardown_keeps owned cfg env
  obtain ⟨loop', keeps', said⟩ := Journals.say { s.torn with loop } cfg .info
    ("BLE session for " ++ cfg.address ++ " stopped")
  rw [finishShutdown, torn, said]
  have kept := keeps.trans keeps'
  refine ⟨fun m => ?_, fun r => ?_⟩
  · calc (loop'.finish (.shutdown n) .done).point? (.attempt m) = loop'.point? (.attempt m) := by
          simp
      _ = s.untimedLoop.point? (.attempt m) := kept.points _ rfl
      _ = s.loop.point? (.attempt m) := s.point?_untimedLoop _
  · exact (kept.timers _ rfl).trans (mem_untimedLoop_retry limit r)

/-- What a supervisor pursues depends on its attempts, its timers and its connection. -/
theorem pursues_congr (points : ∀ m, s'.loop.point? (.attempt m) = s.loop.point? (.attempt m))
    (due : ∀ r, s'.Due r ↔ s.Due r) (machine : s'.machine = s.machine)
    (session : s'.session = s.session) : s'.Pursues opened ↔ s.Pursues opened := by
  have connects (n : Nat) (call : Gatt.Call) : s'.Connects n call ↔ s.Connects n call := by
    cases call <;> simp only [Connects, points, machine]
  simp only [Pursues, Ready, points, due, machine, session, connects]

/-- A supervisor that is disconnected pursues what is still to come. -/
theorem pursues_of_disconnected (disconnected : s.machine.state = .disconnected) :
    s.Pursues opened ↔ (∃ r, s.Due r) ∨ ∃ n, s.Ready n := by
  simp [Pursues, disconnected]

/-- **A start while a shutdown is pending.** The shutdown ends when the call that it waits for
has ended, and does not stop the supervisor again: whether it is stopped depends on whether it was
started meanwhile.  No attempt moves and no retry is taken back.

A supervisor that goes on then pursues a connection exactly if a timer is live for the next
attempt, or an attempt has not begun; or else if the ending escapes, and the supervisor pursued a
connection before. -/
theorem Run.pursues_iff (run : Run cfg past s) (obedient : ∀ m ∈ past, m.Obedient)
    (env : Surroundings)
    (here : s.loop.point? (.shutdown n) = some .shutdownClosing) (ending : Ending)
    (opened : Nat) :
    let after := s.step cfg env (.resumed (.shutdown n) ending)
    after.loop.isLive (.shutdown n) = false ∧ after.stopped = s.stopped ∧
      (∀ m, after.loop.point? (.attempt m) = s.loop.point? (.attempt m)) ∧
      (∀ r, after.Due r ↔ s.Due r) ∧
      (¬ending.Escapes .disconnect (cfg.limitText .disconnect) →
        after.machine.state = .disconnected) ∧
      (after.Pursues opened ↔ (∃ r, s.Due r) ∨ (∃ m, s.Ready m) ∨
        (ending.Escapes .disconnect (cfg.limitText .disconnect) ∧ s.Pursues opened)) := by
  intro after
  have resumed : after = s.resumeShutdown cfg env n ending := step_resumed here cfg env ending
  obtain ⟨loop, keeps, ⟨returns, finished⟩ | ⟨escapes, how, -, aborted⟩⟩ :=
    s.resumeShutdown_cases cfg env n ending
  · have owned : ({ s with loop } : Supervisor δ).toLink.Owned := run.owned.onLoop fun _ => loop
    obtain ⟨points, due⟩ := finishShutdown_spares owned (fun _ known => run.limit obedient known)
      cfg env n
    obtain ⟨loop', -, torn⟩ := finishShutdown_eq { s with loop } cfg env n
    have points' (m : Nat) : after.loop.point? (.attempt m) = s.loop.point? (.attempt m) := by
      rw [resumed, finished]
      exact (points m).trans (keeps.points _ rfl)
    have due' (r : Nat) : after.Due r ↔ s.Due r := by
      rw [resumed, finished]
      exact (due r).trans (keeps.timers _ rfl)
    have disconnected : after.machine.state = .disconnected := by
      rw [resumed, finished, torn]
      exact s.machine.dropped_state
    refine ⟨?_, ?_, points', due', fun _ => disconnected, ?_⟩
    · rw [resumed, finished]
      exact isLive_finish _ _ _
    · rw [resumed, finished, torn]
      rfl
    · rw [pursues_of_disconnected disconnected]
      simp [Ready, points', due', returns]
  · have points (m : Nat) : after.loop.point? (.attempt m) = s.loop.point? (.attempt m) := by
      rw [resumed, aborted]
      exact (Loop.Moves.finish s.loop _ how).points _ rfl (by simp)
    have due (r : Nat) : after.Due r ↔ s.Due r := by
      rw [resumed, aborted]
      exact Iff.rfl
    refine ⟨?_, ?_, points, due, fun returns => absurd escapes returns, ?_⟩
    · rw [resumed, aborted]
      exact isLive_finish _ _ _
    · rw [resumed, aborted]
      rfl
    · have same : after.Pursues opened ↔ s.Pursues opened := by
        apply pursues_congr points due <;> rw [resumed, aborted] <;> rfl
      rw [same]
      refine ⟨fun pursues => .inr (.inr ⟨escapes, pursues⟩), ?_⟩
      rintro (due | ready | ⟨-, pursues⟩)
      · exact .inl due
      · exact .inr (.inl ready)
      · exact pursues

/-- A start whose timer has not gone off when the shutdown ends is pursued. -/
theorem pursues_started :
    let s := play plainSettings plainWorld .fresh (farewell ++ [.started])
    let after := s.step plainSettings plainWorld (.resumed (.shutdown 0) (.returned []))
    after.stopped = false ∧ after.Pursues 1 := by
  intro s after
  have run : Run plainSettings
      (moments plainSettings plainWorld .fresh (farewell ++ [.started])) s :=
    run_play (fun _ _ => rfl) rfl
  have closing : s.loop.point? (.shutdown 0) = some .shutdownClosing := by decide +kernel
  have due : .retry 1 ∈ s.loop.timers := by decide +kernel
  obtain ⟨-, same, -, -, -, pursues⟩ :=
    run.pursues_iff (obedient_moments rfl) plainWorld closing (.returned []) 1
  exact ⟨same.trans (by decide +kernel), pursues.mpr (.inl ⟨1, due⟩)⟩

/-- A start whose timer has gone off before the shutdown ends is swallowed: the supervisor goes
on, and is disconnected without a timer and without an attempt. -/
theorem not_pursues_expired :
    let s := play plainSettings plainWorld .fresh (farewell ++ [.started, .expired (.retry 1)])
    let after := s.step plainSettings plainWorld (.resumed (.shutdown 0) (.returned []))
    (∃ past, Run plainSettings past s ∧ ∀ m ∈ past, m.Obedient) ∧
      s.loop.point? (.shutdown 0) = some .shutdownClosing ∧
      after.loop.isLive (.shutdown 0) = false ∧ after.stopped = false ∧
      (∀ n, after.loop.isLive (.attempt n) = false) ∧ ¬after.Pursues 1 := by
  intro s after
  have idle : after.loop.tasks = [] := by decide +kernel
  have untimed : after.loop.timers = [] := by decide +kernel
  have disconnected : after.machine.state = .disconnected := by decide +kernel
  refine ⟨⟨_, run_play (fun _ _ => rfl) rfl, obedient_moments rfl⟩, by decide +kernel,
    by decide +kernel, by decide +kernel, fun n => ?_, ?_⟩
  · rw [Loop.isLive, Loop.point?, idle]
    rfl
  · rw [pursues_of_disconnected disconnected]
    simp [Due, Ready, Loop.point?, idle, untimed]

end Supervisor

end SensorLink
