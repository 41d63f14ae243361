/-
# Coherence between two callbacks

The state machine, the store, the handle map, the ingestion and the session are
separate fields, set by different callbacks that leave in many ways.  In every
state of a lawful run they agree on whether there is a connection, and on which,
unless a cancelled attempt has failed while its successor was under way.
-/

import SensorLink.Proofs.Supervisor.Preservation

namespace SensorLink

open Connection (State)
open Link (Settings)

namespace Supervisor

variable {δ : Type} {cfg : Settings δ} {s : Supervisor δ}

/-- The parts of a supervisor agree on its connection. -/
structure Coherent (s : Supervisor δ) : Prop where
  /-- The store is online exactly while the connection is ready. -/
  connected : s.store.connected = true ↔ s.machine.state = .ready
  /-- There is a handle map exactly while the connection is ready. -/
  mapped : s.handleMap.isSome = true ↔ s.machine.state = .ready
  /-- There is an ingestion exactly while the connection is ready. -/
  ingesting : s.ingestion.isSome = true ↔ s.machine.state = .ready
  /-- The ingestion is armed and works for the current generation. -/
  current : ∀ i, s.ingestion = some i → ∃ g, s.ingestions[i]? = some g ∧ g.armed = true ∧
    g.generation = s.machine.generation
  /-- No session is held while disconnected. -/
  idle : s.machine.state = .disconnected → s.session = none ∧ s.machine.session = none
  /-- The session of a connection that is up is the state machine's, and holds its client. -/
  held : s.machine.state = .discovering ∨ s.machine.state = .ready →
    ∃ x, s.session = some x ∧ s.machine.session = some x ∧ s.isReleased x = false
  /-- Nothing counts as observed unless the connection is ready. -/
  unobserved : s.machine.state ≠ .ready → ∀ kind, (s.store.read kind).observed = false

/-- The invariant makes the parts of a supervisor agree. -/
theorem Inv.parts_agree {vouch : Nat → Nat → Sensor.Kind → Float → Prop} {running : Option Nat}
    (inv : Inv cfg True vouch running s) {mode : Link.Mode δ} (usable : cfg.mode = .ok mode) :
    s.Coherent where
  connected := ⟨inv.offline, inv.online trivial⟩
  mapped := inv.mapped ⟨mode, usable⟩
  ingesting := by
    constructor
    · intro ingesting
      obtain ⟨i, charge⟩ := Option.isSome_iff_exists.mp ingesting
      exact (inv.in_charge charge).1
    · intro ready
      obtain ⟨i, _, charge, -⟩ := inv.serving ready
      rw [charge]
      rfl
  current i charge := by
    obtain ⟨-, g, here, -, armed, current⟩ := inv.in_charge charge
    exact ⟨g, here, armed, current⟩
  idle := inv.idle
  held := inv.held
  unobserved down kind := by
    by_contra shown
    rw [Bool.not_eq_false] at shown
    exact down (inv.vouched kind (s.store.read kind).value (by rw [← shown])).1

/-- **Coherence.** In every state of a lawful run of a supervisor whose way of ingestion is
usable, the parts of the supervisor agree on its connection, if no cancelled attempt has failed
after its successor was created. -/
theorem Run.coherent {past : List (Moment δ)} (run : Run cfg past s)
    (obedient : ∀ m ∈ past, m.Obedient) {mode : Link.Mode δ} (usable : cfg.mode = .ok mode) :
    s.Coherent :=
  (run.inv obedient).parts_agree usable

/-- The parts agree while the first connection is ready. -/
theorem coherent_firstConnection :
    (play plainSettings plainWorld .fresh firstConnection).machine.state = .ready ∧
      (play plainSettings plainWorld .fresh firstConnection).Coherent :=
  ⟨firstConnection_ready, firstConnection_run.coherent (obedient_moments rfl) rfl⟩

/-- A late failure takes the machine down, and leaves the store online with a handle map, an
ingestion and a session. -/
theorem not_coherent_lateFailure :
    let s := play plainSettings lateWorld .fresh lateFailure
    (∃ past, Run plainSettings past s) ∧ s.machine.state = .disconnected ∧
      s.store.connected = true ∧ s.handleMap.isSome = true ∧ s.ingestion.isSome = true ∧
      s.session.isSome = true ∧ ¬s.Coherent := by
  intro s
  have down : s.machine.state = .disconnected := by decide +kernel
  have online : s.store.connected = true := by decide +kernel
  refine ⟨⟨_, lateFailure_run⟩, down, online, by decide +kernel, by decide +kernel,
    by decide +kernel, fun coherent => ?_⟩
  exact nomatch down.symm.trans (coherent.connected.mp online)

end Supervisor

end SensorLink
