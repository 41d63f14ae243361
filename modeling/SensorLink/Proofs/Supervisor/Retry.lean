/-
# The retry is never lost and never doubled

`RetryKept` states of one state that the retry is neither lost nor doubled.  As
long as no cancelled attempt fails after its successor was created, there is only
one way in which the retry is lost.  A shutdown that ends with an unexpected
failure leaves the connection as it is; if the supervisor is then started again,
it waits for an attempt that may not begin.  So the retry is kept throughout such
a run exactly if every start finds the machine disconnected, and it does as long
as shutdowns come to their end.
-/

import SensorLink.Proofs.Supervisor.Upkeep

namespace SensorLink

open Gatt (Ending)
open Link (Effect Settings Surroundings)
open Sensor (Kind)

namespace Supervisor

variable {δ : Type} {cfg : Settings δ} {alone : Prop}
  {vouch : Nat → Nat → Kind → Float → Prop} {count : Nat} {s : Supervisor δ}
  {past : List (Moment δ)}

/-- The retry is neither lost nor doubled. -/
structure RetryKept (cfg : Settings δ) (s : Supervisor δ) : Prop where
  /-- While disconnected, one timer is live, or one attempt has not begun, and not both. -/
  waiting : s.stopped = false → s.machine.state = .disconnected →
    (∃! r, s.Due r) ∧ (∀ n, ¬s.Ready n) ∨ (∀ r, ¬s.Due r) ∧ ∃! n, s.Ready n
  /-- While connecting, an attempt of the current generation waits for a limited time. -/
  connecting : s.stopped = false → s.machine.state = .connecting →
    ∃ n call, s.Connects n call ∧ (cfg.limits.of call).isSome = true
  /-- No timer is live unless the supervisor is disconnected. -/
  elsewhere : s.machine.state ≠ .disconnected → ∀ r, ¬s.Due r
  stopped : s.stopped = true → ∀ r, ¬s.Due r

/-- The retry is kept before a moment, and the moment opens no session while stopped. -/
def Moment.KeepsRetry (m : Moment δ) (cfg : Settings δ) : Prop :=
  m.before.RetryKept cfg ∧
    (m.before.stopped = true → (m.after cfg).sessions.length = m.before.sessions.length)

/-- A retry that is tended is kept. -/
theorem Tended.retryKept (tended : Tended count s) (inv : Inv cfg alone vouch none s)
    (steady : cfg.Steady) : s.RetryKept cfg := by
  have none_due (none : s.retryTimer = none) (r : Nat) : ¬s.Due r := fun due =>
    nomatch none.symm.trans (inv.retry r due)
  have eager {n : Nat} (ready : s.Ready n) : s.Eager n := (inv.eager_of_ready ready).2
  refine ⟨?_, ?_, ?_, ?_⟩
  · intro goesOn disconnected
    cases known : s.retryTimer with
    | some timer =>
      obtain ⟨r, rfl, due⟩ := tended.pending timer known
      refine .inl ⟨⟨r, due, fun other also => ?_⟩, fun n ready => ?_⟩
      · have same := (inv.retry other also).symm.trans known
        simpa using same
      · exact nomatch (eager ready).2.2.symm.trans known
    | none =>
      obtain ⟨n, ready⟩ := tended.due goesOn disconnected known
      refine .inr ⟨none_due known, n, ready, fun other also => ?_⟩
      exact Option.some.inj ((eager also).1.symm.trans (eager ready).1)
  · intro goesOn connecting
    obtain ⟨n, call, connects, -⟩ := tended.driven goesOn connecting
    refine ⟨n, call, connects, ?_⟩
    cases call with
    | connect | pair => exact steady.limited
    | read | subscribe | disconnect => cases connects
  · exact fun up => none_due (tended.quiet (.inr up))
  · exact fun stopped => none_due (tended.quiet (.inl stopped))

/-- A start that finds the machine anything but disconnected sets a timer all the same. -/
theorem sound_of_retryKept {env : Surroundings} {event : Event}
    (kept : (s.step cfg env event).RetryKept cfg) : s.Sound event := by
  rintro rfl stopped
  by_contra up
  have started : s.step cfg env .started =
      { s with stopped := false, failures := 0 }.scheduleConnect cfg.atOnce := by
    rw [step, start, if_pos stopped]
  rw [started, scheduleConnect_eq rfl] at kept
  exact kept.elsewhere up s.retries ((Link.Loop.mem_timers_replace _ _ _ _ _).mpr (.inl rfl))

/-- A shutdown that came to its end left the machine disconnected. -/
theorem Tended.sound (tended : Tended count s) {event : Event} (patient : s.Patient event)
    (complete : ∀ n how, Effect.ended (.shutdown n) how ∈ s.loop.tape → how = .done) :
    s.Sound event := by
  rintro rfl stopped
  rcases tended.halted stopped with disconnected | ⟨n, closing⟩ | ⟨n, how, ended, aborted⟩
  · exact disconnected
  · exact absurd (by rw [Link.Loop.isLive, closing]; rfl) (patient rfl n)
  · exact absurd (complete n how ended) aborted

/-- What the world and the callers promise about a moment on top of what is lawful. -/
structure Moment.Regular (m : Moment δ) : Prop where
  patient : m.before.Patient m.event
  faithful : m.before.Faithful m.event

theorem Run.tended (run : Run cfg past s) (obedient : ∀ m ∈ past, m.Obedient)
    (steady : cfg.Steady) (regular : ∀ m ∈ past, m.Regular)
    (sound : ∀ m ∈ past, m.before.Sound m.event) : ∃ count, Tended count s := by
  induction run with
  | fresh => exact ⟨0, .fresh⟩
  | step m run lawful ih =>
    simp only [List.forall_mem_append, List.forall_mem_singleton] at obedient regular sound
    obtain ⟨count, tended⟩ := ih obedient.1 regular.1 sound.1
    obtain ⟨later, -, tended⟩ := tended.step (run.inv obedient.1) steady lawful
      regular.2.patient regular.2.faithful sound.2
    exact ⟨later, tended⟩

theorem Run.keepsRetry (run : Run cfg past s) (obedient : ∀ m ∈ past, m.Obedient)
    (steady : cfg.Steady) (regular : ∀ m ∈ past, m.Regular)
    (sound : ∀ m ∈ past, m.before.Sound m.event) : ∀ m ∈ past, m.KeepsRetry cfg := by
  induction run with
  | fresh => exact List.forall_mem_nil _
  | step m run lawful ih =>
    simp only [List.forall_mem_append, List.forall_mem_singleton] at obedient regular sound ⊢
    refine ⟨ih obedient.1 regular.1 sound.1, ?_⟩
    have inv := run.inv obedient.1
    obtain ⟨count, tended⟩ := run.tended obedient.1 steady regular.1 sound.1
    obtain ⟨later, same, after⟩ := tended.step inv steady lawful regular.2.patient
      regular.2.faithful sound.2
    refine ⟨tended.retryKept inv steady, fun stopped => ?_⟩
    rw [tended.counted, ← same stopped]
    exact after.counted

theorem Run.sound_of_kept (run : Run cfg past s) (kept : ∀ m ∈ past, m.KeepsRetry cfg)
    (last : s.RetryKept cfg) : ∀ m ∈ past, m.before.Sound m.event := by
  induction run with
  | fresh => exact List.forall_mem_nil _
  | step m run lawful ih =>
    simp only [List.forall_mem_append, List.forall_mem_singleton] at kept ⊢
    exact ⟨ih kept.1 kept.2.1, sound_of_retryKept last⟩

theorem Run.sound_of_complete (run : Run cfg past s) (obedient : ∀ m ∈ past, m.Obedient)
    (steady : cfg.Steady) (regular : ∀ m ∈ past, m.Regular)
    (complete : ∀ m ∈ past, ∀ n how,
      Effect.ended (.shutdown n) how ∈ m.before.loop.tape → how = .done) :
    ∀ m ∈ past, m.before.Sound m.event := by
  induction run with
  | fresh => exact List.forall_mem_nil _
  | step m run lawful ih =>
    simp only [List.forall_mem_append, List.forall_mem_singleton] at obedient regular complete ⊢
    have sound := ih obedient.1 regular.1 complete.1
    obtain ⟨count, tended⟩ := run.tended obedient.1 steady regular.1 sound
    exact ⟨sound, tended.sound regular.2.patient complete.2⟩

/-- **The retry is kept** in every state of a run in which no cancelled attempt fails after its
successor was created and nobody starts the supervisor while a shutdown is pending, exactly if
every start of a stopped supervisor finds the machine disconnected; and it does as long as every
shutdown comes to its end. -/
theorem Run.retryKept_iff (run : Run cfg past s) (obedient : ∀ m ∈ past, m.Obedient)
    (steady : cfg.Steady) (regular : ∀ m ∈ past, m.Regular) :
    ((∀ m ∈ past, m.KeepsRetry cfg) ∧ s.RetryKept cfg ↔ ∀ m ∈ past, m.before.Sound m.event) ∧
    ((∀ m ∈ past, ∀ n how, Effect.ended (.shutdown n) how ∈ m.before.loop.tape → how = .done) →
      ∀ m ∈ past, m.before.Sound m.event) := by
  refine ⟨⟨fun ⟨kept, last⟩ => run.sound_of_kept kept last, fun sound => ?_⟩,
    run.sound_of_complete obedient steady regular⟩
  obtain ⟨count, tended⟩ := run.tended obedient steady regular sound
  exact ⟨run.keepsRetry obedient steady regular sound,
    tended.retryKept (run.inv obedient) steady⟩

/-- The settings for runs by hand are steady. -/
theorem plainSettings_steady : plainSettings.Steady :=
  ⟨fun _ => ⟨1, rfl⟩, rfl⟩

/-- After the first connection the supervisor is shut down. -/
def closure (ending : Ending) : List Event :=
  firstConnection ++ [.shutdownAsked, .begins (.shutdown 0), .resumed (.shutdown 0) ending]

/-- The supervisor is started again once the shutdown has ended. -/
def restart (ending : Ending) : List Event :=
  closure ending ++ [.started]

/-- What holds of the first start, of every other event before the second start, and of the
second start, holds of all. -/
theorem forall_mem_restart {ending : Ending} {P : Moment Nat → Prop}
    (first : P ⟨.fresh, plainWorld, .started⟩)
    (between : ∀ s, ∀ event ∈ (closure ending).tail, P ⟨s, plainWorld, event⟩)
    (second : P ⟨play plainSettings plainWorld .fresh (closure ending), plainWorld, .started⟩) :
    ∀ m ∈ moments plainSettings plainWorld .fresh (restart ending), P m := by
  simp only [closure, firstConnection, List.cons_append, List.nil_append, List.tail_cons] at between
  simp only [restart, closure, firstConnection, moments, List.cons_append, List.nil_append,
    List.forall_mem_cons]
  refine ⟨first, ?_, ?_, ?_, ?_, ?_, ?_, ?_, second, List.forall_mem_nil _⟩ <;>
    exact between _ _ (by simp)

/-- Nobody starts the supervisor while its shutdown is pending. -/
theorem restart_regular (ending : Ending) (whole : ending ≠ .cancelled)
    (idle : (play plainSettings plainWorld .fresh (closure ending)).loop.tasks = []) :
    ∀ m ∈ moments plainSettings plainWorld .fresh (restart ending), m.Regular := by
  apply forall_mem_restart
  · exact ⟨fun _ _ => nofun, nofun⟩
  · intro s event here
    refine ⟨?_, ?_⟩
    · rintro rfl
      simp [closure, firstConnection] at here
    · rintro task rfl
      simp [closure, firstConnection, whole.symm] at here
  · refine ⟨fun _ n live => ?_, nofun⟩
    rw [Link.Loop.isLive, Link.Loop.point?, idle] at live
    cases live

/-- The retry is kept through a shutdown that comes to its end, and through the start after it. -/
theorem retryKept_restart :
    (play plainSettings plainWorld .fresh (restart (.returned []))).RetryKept plainSettings := by
  have run : Run plainSettings (moments plainSettings plainWorld .fresh (restart (.returned [])))
      (play plainSettings plainWorld .fresh (restart (.returned []))) :=
    run_play (fun _ _ => rfl) rfl
  have regular := restart_regular (.returned []) nofun (by decide +kernel)
  refine ((run.retryKept_iff (obedient_moments rfl) plainSettings_steady regular).1.mpr ?_).2
  apply forall_mem_restart
  · exact fun _ _ => rfl
  · rintro s event here rfl
    simp [closure, firstConnection] at here
  · have down : (play plainSettings plainWorld .fresh (closure (.returned []))).machine.state =
        .disconnected := by decide +kernel
    exact fun _ _ => down

/-- A shutdown that ends with an unexpected failure leaves the connection ready, and the start
after it sets the timer of an attempt that may not begin. -/
theorem retry_lost_restart :
    let explosion := Ending.raised (.reported .runtime "backend exploded")
    let past := moments plainSettings plainWorld .fresh (restart explosion)
    ∃ s, Run plainSettings past s ∧ (∀ m ∈ past, m.Obedient) ∧ (∀ m ∈ past, m.Regular) ∧
      ¬s.RetryKept plainSettings := by
  intro explosion past
  refine ⟨_, run_play (fun _ _ => rfl) rfl, obedient_moments rfl,
    restart_regular explosion nofun (by decide +kernel), ?_⟩
  intro kept
  have up : (play plainSettings plainWorld .fresh (restart explosion)).machine.state = .ready := by
    decide +kernel
  have due : .retry 1 ∈ (play plainSettings plainWorld .fresh (restart explosion)).loop.timers := by
    decide +kernel
  exact kept.elsewhere (by simp [up]) 1 due

end Supervisor

end SensorLink
