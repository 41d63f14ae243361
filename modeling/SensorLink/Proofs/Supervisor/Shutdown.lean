/-
# What a shutdown leaves behind

A shutdown that has ended should leave nothing of a connection.  It ends in one of
two callbacks: in its first step, if no link is up, and otherwise when the session
in charge was asked to disconnect and the call has ended.  In the first callback
everything is torn down.  In the second it is, unless the ending of the call
escapes: then the shutdown ends without a teardown, and leaves whatever it found.
-/

import SensorLink.Proofs.Supervisor.Retry
import SensorLink.Proofs.Supervisor.Tidiness

namespace SensorLink

open Gatt (Ending)
open Link (Settings Surroundings)
open Sensor (Kind)

namespace Supervisor

variable {δ : Type} {cfg : Settings δ} {alone : Prop}
  {watched : Nat → Prop} {vouch : Nat → Nat → Kind → Float → Prop} {s : Supervisor δ} {n : Nat}
  {past : List (Moment δ)}

/-- Nothing is left of any connection. -/
structure TornDown (s : Supervisor δ) : Prop where
  disconnected : s.machine.state = .disconnected
  /-- No session is in charge, and every session has given its client up. -/
  idle : s.session = none ∧ s.machine.session = none
  released : ∀ x, s.isReleased x = true
  unmapped : s.handleMap = none
  /-- No ingestion is in charge, and none is armed. -/
  resting : s.ingestion = none
  disarmed : ∀ g ∈ s.ingestions, g.armed = false
  /-- No retry timer and no discovery timer is live. -/
  unretried : ∀ r, ¬s.Due r
  untimed : ∀ m g, .discovery m g ∉ s.loop.timers
  /-- The store is offline, and nothing counts as observed. -/
  offline : s.store.connected = false
  unobserved : ∀ kind, (s.store.read kind).observed = false

/-- A disconnected supervisor without a handle map and without a retry is torn down. -/
theorem Tidy.tornDown (tidy : Tidy watched s) (inv : Inv cfg alone vouch none s)
    (disconnected : s.machine.state = .disconnected) (unmapped : s.handleMap = none)
    (unretried : ∀ r, ¬s.Due r) : s.TornDown where
  disconnected := disconnected
  idle := inv.idle disconnected
  released x := by
    by_contra holds
    have charge := tidy.spent x (by simpa using holds)
    exact nomatch (inv.idle disconnected).1.symm.trans charge
  unmapped := unmapped
  resting := inv.resting (by simp [disconnected])
  disarmed g mem := by
    obtain ⟨i, here⟩ := List.mem_iff_getElem?.mp mem
    have duty : s.duties[i]? = some g.duty := by rw [Link.duties, List.getElem?_map, here]; rfl
    by_contra armed
    have charge := inv.sole i g.duty duty (.inl (by simpa [Link.Ingestion.duty] using armed))
    exact nomatch (inv.resting (by simp [disconnected])).symm.trans charge
  unretried := unretried
  untimed m g live :=
    nomatch (tidy.untimed (by simp [disconnected])).symm.trans (tidy.timed m g live)
  offline := by
    by_contra online
    have ready := inv.offline (by simpa using online)
    simp [disconnected] at ready
  unobserved kind := by
    cases shown : s.store.read kind with
    | mk value observed =>
      cases observed with
      | false => rfl
      | true => exact absurd (inv.vouched kind value shown).1 (by simp [disconnected])

/-- The end of a task leaves nothing of a connection exactly if nothing was left before. -/
theorem tornDown_finish (s : Supervisor δ) (task : Link.TaskId) (how : Link.Finish) :
    (s.finish task how).TornDown ↔ s.TornDown :=
  ⟨fun torn => { torn with }, fun torn => { torn with }⟩

/-- A shutdown that comes to its end leaves the supervisor disconnected and without a handle
map. -/
theorem finishShutdown_eq (s : Supervisor δ) (cfg : Settings δ) (env : Surroundings) (n : Nat) :
    ∃ loop, s.loop.Wanes s.partingNotices loop ∧
      s.finishShutdown cfg env n =
        ({ s.torn with loop } : Supervisor δ).finish (.shutdown n) .done := by
  obtain ⟨loop, wanes, torn⟩ := s.teardown_eq cfg env
  obtain ⟨loop', keeps, said⟩ := Journals.say { s.torn with loop } cfg .info
    ("BLE session for " ++ cfg.address ++ " stopped")
  exact ⟨loop', wanes.after keeps.wanes, by rw [finishShutdown, torn, said]⟩

/-- A shutdown that comes to its end tears everything down, unless a retry is due after it. -/
theorem Tidy.tornDown_finishShutdown (tidy : Tidy watched s) (inv : Inv cfg alone vouch none s)
    (env : Surroundings) (n : Nat) : (s.finishShutdown cfg env n).TornDown ↔
      ∀ r, ¬(s.finishShutdown cfg env n).Due r := by
  refine ⟨TornDown.unretried, fun unretried => ?_⟩
  apply (tidy.finishShutdown cfg env n).tornDown (inv.finishShutdown env n) _ _ unretried
  all_goals obtain ⟨loop, -, finished⟩ := s.finishShutdown_eq cfg env n
  · rw [finished]
    exact s.machine.dropped_state
  · rw [finished]
    rfl

/-- A retry that is due after a shutdown was due before. -/
theorem due_of_finishShutdown {env : Surroundings} {r : Nat}
    (due : (s.finishShutdown cfg env n).Due r) : s.Due r := by
  obtain ⟨loop, wanes, finished⟩ := s.finishShutdown_eq cfg env n
  rw [finished] at due
  exact wanes.timers _ rfl due

/-- While no retry timer is set, none is live. -/
theorem Inv.not_due (inv : Inv cfg alone vouch none s) (quiet : s.retryTimer = none) (r : Nat) :
    ¬s.Due r :=
  fun due => nomatch quiet.symm.trans (inv.retry r due)

/-- A shutdown either waits after its first step, or has torn everything down. -/
theorem Run.tornDown_begins (run : Run cfg past s) (obedient : ∀ m ∈ past, m.Obedient)
    (env : Surroundings)
    (here : s.loop.point? (.shutdown n) = some .shutdownStart) :
    let after := s.step cfg env (.begins (.shutdown n))
    after.loop.point? (.shutdown n) = some .shutdownClosing ∨
      after.loop.isLive (.shutdown n) = false ∧ after.TornDown := by
  intro after
  have began : after = s.startShutdown cfg env n := step_begins here cfg env
  have tidy : Tidy (fun _ => False) s := run.tidy obedient nofun
  obtain ⟨loop, keeps, ⟨-, finished⟩ | ⟨x, -, waits⟩⟩ := s.startShutdown_cases cfg env n
  · have tidy' := tidy.stopAttempts.keeps keeps
    have inv' := (run.inv obedient).stopAttempts.fade keeps.wanes
    have quiet : s.stopAttempts.retryTimer = none := by rw [stopAttempts_eq]
    rw [began, finished]
    refine .inr ⟨isLive_finish _ _ _, (tidy'.tornDown_finishShutdown inv' env n).mpr ?_⟩
    exact fun r due => inv'.not_due quiet r (due_of_finishShutdown due)
  · rw [began, waits]
    exact .inl (point?_await ..)

/-- **The end of a shutdown.** The first step of a shutdown either tears everything down or waits
for the session in charge to close.

Once that call has ended, the shutdown has ended too.  Nothing of a connection is left then,
exactly if the ending did not escape and no retry is due, or if nothing was left before; so if
the ending escapes, whatever the shutdown met with is left as it was.  No retry is due after a
shutdown as long as nobody starts the supervisor while one is pending. -/
theorem Run.shutdown_tornDown_iff (run : Run cfg past s) (obedient : ∀ m ∈ past, m.Obedient)
    (env : Surroundings) (n : Nat) :
    (s.loop.point? (.shutdown n) = some .shutdownStart →
      let after := s.step cfg env (.begins (.shutdown n))
      after.loop.point? (.shutdown n) = some .shutdownClosing ∨
        after.loop.isLive (.shutdown n) = false ∧ after.TornDown) ∧
    (s.loop.point? (.shutdown n) = some .shutdownClosing → ∀ ending : Ending,
      let after := s.step cfg env (.resumed (.shutdown n) ending)
      after.loop.isLive (.shutdown n) = false ∧
      (after.TornDown ↔ (¬ending.Escapes .disconnect (cfg.limitText .disconnect) ∧
        ∀ r, ¬after.Due r) ∨ s.TornDown) ∧
      ((∀ m ∈ past, m.before.Patient m.event) → ∀ r, ¬after.Due r)) := by
  refine ⟨run.tornDown_begins obedient env, ?_⟩
  intro here ending after
  have resumed : after = s.resumeShutdown cfg env n ending := step_resumed here cfg env ending
  have unretried (patient : ∀ m ∈ past, m.before.Patient m.event) (r : Nat) : ¬s.Due r := by
    have tidy : Tidy (fun _ => True) s := run.tidy obedient fun _ _ => patient
    exact (run.inv obedient).not_due (tidy.quiet (tidy.closing n trivial here).1) r
  obtain ⟨loop, keeps, ⟨returns, finished⟩ | ⟨escapes, how, -, aborted⟩⟩ :=
    s.resumeShutdown_cases cfg env n ending
  · have tidy : Tidy (fun _ => False) { s with loop } := (run.tidy obedient nofun).keeps keeps
    have inv := (run.inv obedient).fade keeps.wanes
    have before {r : Nat} (due : after.Due r) : s.Due r := by
      rw [resumed, finished] at due
      exact (keeps.timers _ rfl).mp (due_of_finishShutdown due)
    have torn : after.TornDown ↔ ∀ r, ¬after.Due r := by
      rw [resumed, finished]
      exact tidy.tornDown_finishShutdown inv env n
    refine ⟨?_, ?_, fun patient r due => unretried patient r (before due)⟩
    · rw [resumed, finished]
      exact isLive_finish _ _ _
    · rw [torn]
      refine ⟨fun idle => .inl ⟨returns, idle⟩, ?_⟩
      rintro (⟨-, idle⟩ | torn) r due
      · exact idle r due
      · exact torn.unretried r (before due)
  · rw [resumed, aborted, tornDown_finish]
    exact ⟨isLive_finish _ _ _, by simp [escapes], unretried⟩

/-- After a first connection, a shutdown waits for the session to close. -/
def farewell : List Event :=
  firstConnection ++ [.shutdownAsked, .begins (.shutdown 0)]

theorem farewell_run : Run plainSettings (moments plainSettings plainWorld .fresh farewell)
    (play plainSettings plainWorld .fresh farewell) :=
  run_play (fun _ _ => rfl) rfl

/-- Nobody starts the supervisor while its shutdown is pending. -/
theorem patient_farewell {m : Moment Nat}
    (mem : m ∈ moments plainSettings plainWorld .fresh farewell) : m.before.Patient m.event := by
  rcases List.mem_cons.mp mem with rfl | mem
  · exact fun _ _ => nofun
  · intro started
    have later := event_mem_of_mem_moments mem
    simp [started] at later

theorem closing_farewell :
    (play plainSettings plainWorld .fresh farewell).loop.point? (.shutdown 0) =
      some .shutdownClosing := by
  decide +kernel

/-- Nothing is left of the connection once the session is closed. -/
theorem tornDown_farewell :
    ((play plainSettings plainWorld .fresh farewell).step plainSettings plainWorld
      (.resumed (.shutdown 0) (.returned []))).TornDown := by
  obtain ⟨-, torn, unretried⟩ :=
    (farewell_run.shutdown_tornDown_iff (obedient_moments rfl) plainWorld 0).2 closing_farewell
      (.returned [])
  refine torn.mpr (.inl ⟨Ending.not_escapes_of_ok rfl, unretried ?_⟩)
  exact fun m mem => patient_farewell mem

/-- A shutdown whose call fails for a reason other than the transport ends all the same, and
leaves the connection ready. -/
theorem not_tornDown_farewell :
    let explosion := Ending.raised (.reported .runtime "backend exploded")
    let s := play plainSettings plainWorld .fresh farewell
    let after := s.step plainSettings plainWorld (.resumed (.shutdown 0) explosion)
    (∃ past, Run plainSettings past s ∧ (∀ m ∈ past, m.Obedient) ∧
      ∀ m ∈ past, m.before.Patient m.event) ∧
      s.loop.isLive (.shutdown 0) = true ∧ after.loop.isLive (.shutdown 0) = false ∧
      after.machine.state = .ready ∧ ¬after.TornDown := by
  intro explosion s after
  have up : after.machine.state = .ready := by decide +kernel
  refine ⟨⟨_, farewell_run, obedient_moments rfl, fun m mem => patient_farewell mem⟩,
    by decide +kernel, by decide +kernel, up, fun torn => ?_⟩
  exact nomatch up.symm.trans torn.disconnected

end Supervisor

end SensorLink
