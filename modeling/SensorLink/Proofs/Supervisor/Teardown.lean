/-
# One teardown for each connection

However often and by whomever the end of a connection is signalled, it is torn
down once: by the first signal that finds it up.  That signal ends the generation
of the connection, and since generations do not come back, no later signal finds
the connection up again.
-/

import SensorLink.Proofs.Supervisor.Turns

namespace SensorLink

open Gatt (Ending)
open Link (Settings)

namespace Supervisor

variable {δ : Type} {cfg : Settings δ} {past : List (Moment δ)} {g : Nat}

/-- **One teardown for each connection.**  A signal of the end of a connection is answered by one
teardown and one retry if it finds the connection up, and ignored otherwise, except that a forced
disconnect whose call aborts tears nothing down, and that no retry is set where there is no delay
to wait.  After a signal that found the connection up, and aborted no call, no other one finds it
up. -/
theorem Run.one_teardown {m : Moment δ} (run : Run cfg past m.before)
    (obedient : ∀ m' ∈ past, m'.Obedient) (signals : m.before.Signals g m.event) :
    (m.before.Answers g (m.after cfg) ↔ ¬(m.before.Up g ∧ (m.event.Aborts cfg ∨
      m.before.stopped = false ∧ ∃ f, cfg.retryDelay m.before.failures = .error f))) ∧
    ((∃ m' ∈ past, m'.before.Signals g m'.event ∧ m'.before.Up g ∧ ¬m'.event.Aborts cfg) →
      ¬m.before.Up g) := by
  constructor
  · exact answers_step_iff signals (run.inv obedient).retry (run.unwatched obedient).quiet cfg
      m.env
  · rintro ⟨m', mem, signals', up', whole⟩ up
    have later : g < (m'.after cfg).machine.generation :=
      generation_lt_of_signals signals' up' whole m'.env
    exact absurd up.1 (Nat.ne_of_lt (Nat.lt_of_lt_of_le later (run.generation_le obedient m' mem)))

/-- Settings for runs by hand in which discovery is limited. -/
def limitedSettings : Settings Nat :=
  { plainSettings with discoveryLimit := some 5 }

/-- The events of a discovery that fails.  Its limit is reached, and the session is closed by
force. -/
def stalledDiscovery : List Event :=
  [.started, .expired (.retry 0), .begins (.attempt 0), .resumed (.attempt 0) (.returned []),
    .treeRead (.attempt 0) (.ok none), .expired (.discovery 0 1), .begins (.forcedDisconnect 0)]

/-- The connection whose discovery stalled. -/
abbrev stalled : Supervisor Nat :=
  play limitedSettings plainWorld .fresh stalledDiscovery

theorem stalled_run :
    Run limitedSettings (moments limitedSettings plainWorld .fresh stalledDiscovery) stalled :=
  run_play (fun _ _ => rfl) rfl

theorem stalled_obedient :
    ∀ m ∈ moments limitedSettings plainWorld .fresh stalledDiscovery, m.Obedient :=
  obedient_moments rfl

theorem stalled_up : stalled.Up 1 :=
  ⟨by decide +kernel, .inl (by decide +kernel)⟩

/-- A link that is lost aborts no call. -/
theorem not_aborts_linkLost (g : Nat) : ¬Event.Aborts (.linkLost g) cfg :=
  fun ⟨_, _, resumed, _⟩ => nomatch resumed

/-- The client of the connection reports its end, and then the forced disconnect does: one
teardown and one retry. -/
theorem one_teardown_stalled :
    let s := stalled.step limitedSettings plainWorld (.linkLost 1)
    stalled.TornOnce s ∧ stalled.Retried s ∧ ¬s.Up 1 ∧ s.Ignores
      (s.step limitedSettings plainWorld (.resumed (.forcedDisconnect 0) (.returned []))) := by
  intro s
  have first : stalled.Answers 1 s :=
    (stalled_run.one_teardown (m := ⟨stalled, plainWorld, .linkLost 1⟩) stalled_obedient
      (.inl rfl)).1.mpr fun
      | ⟨_, .inl aborts⟩ => not_aborts_linkLost 1 aborts
      | ⟨_, .inr ⟨_, _, unknown⟩⟩ => nomatch unknown
  have run := stalled_run.step ⟨stalled, plainWorld, .linkLost 1⟩ (.of_tame (fun _ _ => rfl) rfl)
  have closed : s.Ends 0 1 (.resumed (.forcedDisconnect 0) (.returned [])) :=
    .closed (by decide +kernel)
  have obedient : ∀ m ∈ moments limitedSettings plainWorld .fresh stalledDiscovery ++
      [⟨stalled, plainWorld, .linkLost 1⟩], m.Obedient := by
    rw [List.forall_mem_append, List.forall_mem_singleton]
    exact ⟨stalled_obedient, .of_succumbs rfl stalled⟩
  obtain ⟨answered, once⟩ := run.one_teardown
    (m := ⟨s, plainWorld, .resumed (.forcedDisconnect 0) (.returned [])⟩) obedient
    (.inr ⟨0, closed⟩)
  have down : ¬s.Up 1 := once ⟨⟨stalled, plainWorld, .linkLost 1⟩,
    List.mem_append_right _ (List.mem_singleton_self _), .inl rfl, stalled_up,
    not_aborts_linkLost 1⟩
  have second := answered.mpr fun ⟨up, _⟩ => down up
  exact ⟨first.torn stalled_up, first.retried stalled_up (by decide +kernel), down,
    second.ignored down⟩

/-- Where the call of the forced disconnect aborts, the connection stays in discovery for good:
no task and no timer is left. -/
theorem not_torn_stalled :
    let event := Event.resumed (.forcedDisconnect 0)
      (.raised (.reported .runtime "backend exploded"))
    let s := stalled.step limitedSettings plainWorld event
    stalled.Signals 1 event ∧ stalled.Up 1 ∧ s.machine = stalled.machine ∧
      s.loop.tasks = [] ∧ s.loop.timers = [] ∧ ¬stalled.Answers 1 s := by
  intro event s
  have machine : s.machine = stalled.machine := by decide +kernel
  refine ⟨.inr ⟨0, .closed (by decide +kernel)⟩, stalled_up, machine, by decide +kernel,
    by decide +kernel, fun answers => ?_⟩
  have torn := (answers.torn stalled_up).machine
  have moved : stalled.machine.dropped ≠ stalled.machine := by decide +kernel
  exact moved (torn.symm.trans machine)

end Supervisor

end SensorLink
