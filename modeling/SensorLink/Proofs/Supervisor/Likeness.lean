/-
# Supervisors that differ in their reports

Two supervisors are alike if only reports on their loops tell them apart.  Leaving
a record is a report, and so is all that the journal changes in a callback, with one
exception: a journal that keeps the least grave records makes the set-up list the
discovered tree first.  `Settings.reads` is what the set-up makes of a tree, and up
to reports the set-up goes by that alone.
-/

import SensorLink.Proofs.Ingestion.Likeness
import SensorLink.Proofs.Supervisor.Operations

namespace SensorLink

open Gatt (HandleMap)
open Link (Settings Surroundings TaskId)

/-- What the set-up makes of a tree: the handles that it finds, or the failure that it ends
with.  A journal that keeps the least grave records has the tree listed first. -/
def Link.Settings.reads {δ : Type} (cfg : Settings δ) (tree : Gatt.Tree) :
    Except Failure HandleMap :=
  if Journal.Level.debug.passes cfg.threshold then
    tree.listing.bind fun _ => (Gatt.resolve tree).result
  else (Gatt.resolve tree).result

namespace Supervisor

variable {δ : Type}

/-- Nothing but reports tells two supervisors apart. -/
def Alike (s s' : Supervisor δ) : Prop :=
  ∃ loop, s.loop.Alike loop ∧ s' = { s with loop }

/-- An attempt is about to go on with the tree of the current connection. -/
def Hands (s : Supervisor δ) (event : Event) (tree : Gatt.Tree) : Prop :=
  ∃ n session, event = .treeRead (.attempt n) (.ok (some tree)) ∧
    s.loop.point? (.attempt n) = some (.discovering s.machine.generation session)

/-- What becomes of the attempt that is handed the tree of the current connection. -/
theorem step_of_hands {s : Supervisor δ} {n session : Nat}
    (here : s.loop.point? (.attempt n) = some (.discovering s.machine.generation session))
    (cfg : Settings δ) (env : Surroundings) (tree : Gatt.Tree) :
    s.step cfg env (.treeRead (.attempt n) (.ok (some tree))) =
      finishWith (.attempt n) (s.setUp cfg env session tree) := by
  simp only [step, here, resumeDiscovering, Gatt.discovered,
    Connection.Machine.isCurrent_natCast, beq_self_eq_true, if_true]

namespace Alike

variable {s s' : Supervisor δ}

theorem refl (s : Supervisor δ) : s.Alike s :=
  ⟨s.loop, .refl _, rfl⟩

theorem trans {s'' : Supervisor δ} (first : s.Alike s') (second : s'.Alike s'') : s.Alike s'' := by
  obtain ⟨loop, alike, rfl⟩ := first
  obtain ⟨loop', alike', rfl⟩ := second
  exact ⟨loop', alike.trans alike', rfl⟩

theorem machine (alike : s.Alike s') : s'.machine = s.machine := by
  obtain ⟨loop, -, rfl⟩ := alike
  rfl

theorem point? (alike : s.Alike s') (task : TaskId) :
    s'.loop.point? task = s.loop.point? task := by
  obtain ⟨loop, alike, rfl⟩ := alike
  exact alike.point? task

theorem acts (alike : s.Alike s') : s'.loop.acts = s.loop.acts := by
  obtain ⟨loop, alike, rfl⟩ := alike
  exact alike.acts

theorem recorded (s : Supervisor δ) (cfg : Settings δ) (r : Journal.Record) :
    s.Alike (s.onLink (·.record cfg r)) := by
  obtain ⟨loop, alike, same⟩ := Link.Alike.recorded s.toLink cfg r
  exact ⟨loop, alike, by simp only [Supervisor.onLink, same]⟩

theorem reported (outcome : Supervisor δ × Option Failure) : outcome.1.Alike (report outcome) := by
  unfold report
  split
  · exact ⟨_, .report outcome.1.loop rfl, rfl⟩
  · exact refl outcome.1

/-- Leaving a list of records. -/
theorem records (s : Supervisor δ) (cfg : Settings δ) (rs : List Journal.Record) :
    s.Alike (s.onLink fun l => rs.foldl (fun l r => l.record cfg r) l) := by
  induction rs generalizing s with
  | nil => exact refl s
  | cons r rest ih => exact (recorded s cfg r).trans (ih (s.onLink (·.record cfg r)))

theorem shown (s : Supervisor δ) (cfg : Settings δ) (handles : HandleMap) :
    s.Alike (s.showHandles cfg handles) := by
  unfold showHandles
  split
  · exact recorded s cfg _
  · exact refl s

end Alike

/-- Discovery succeeds only with a tree that was read. -/
theorem discovered_eq_ok {α : Type} {reading : Except Failure (Option α)} {a : α}
    (seen : Gatt.discovered reading = .ok a) : reading = .ok (some a) := by
  unfold Gatt.discovered at seen
  split at seen
  · rw [Except.ok.inj seen]
  · cases seen
  · split at seen <;> cases seen

theorem reads_of_listTree_ok {s t : Supervisor δ} {cfg : Settings δ} {tree : Gatt.Tree}
    (listed : s.listTree cfg tree = .ok t) :
    s.Alike t ∧ cfg.reads tree = (Gatt.resolve tree).result := by
  unfold listTree at listed
  unfold Settings.reads
  split at listed
  · rename_i passes
    cases text : tree.listing with
    | error f => simp [text, Except.map] at listed
    | ok text =>
      simp only [‹tree.listing = _›, Except.map, Except.ok.injEq] at listed
      rw [← listed, if_pos passes]
      exact ⟨.recorded s cfg _, rfl⟩
  · rename_i passes
    cases listed
    rw [if_neg passes]
    exact ⟨.refl s, rfl⟩

theorem reads_of_listTree_error {s : Supervisor δ} {cfg : Settings δ} {tree : Gatt.Tree}
    {f : Failure} (failed : s.listTree cfg tree = .error f) : cfg.reads tree = .error f := by
  unfold listTree at failed
  unfold Settings.reads
  split at failed
  · rename_i passes
    cases text : tree.listing with
    | error g =>
      simp only [text, Except.map, Except.error.injEq] at failed
      rw [if_pos passes, failed]
      rfl
    | ok text => simp [text, Except.map] at failed
  · cases failed

/-- The set-up once the tree was read. -/
def finishSetUp (s : Supervisor δ) (cfg : Settings δ) (env : Surroundings) (session : Nat)
    (found : Except Failure HandleMap) : Supervisor δ × Option Failure :=
  match found, cfg.mode with
  | .error f, _ => (s, some f)
  | .ok handles, .error f => ({ s with handleMap := some handles }, some f)
  | .ok handles, .ok mode =>
    ({ s with handleMap := some handles }.becomeReady cfg env session mode handles, none)

/-- Up to reports, the set-up takes the discovery timer back and goes by what it reads. -/
theorem setUp_eq (s : Supervisor δ) (cfg : Settings δ) (env : Surroundings) (session : Nat)
    (tree : Gatt.Tree) : ∃ t, s.cancelDiscoveryTimer.Alike t ∧
      s.setUp cfg env session tree = t.finishSetUp cfg env session (cfg.reads tree) := by
  rw [setUp]
  cases listed : s.cancelDiscoveryTimer.listTree cfg tree with
  | error f =>
    rw [reads_of_listTree_error listed]
    exact ⟨_, .refl _, rfl⟩
  | ok t =>
    obtain ⟨alike, read⟩ := reads_of_listTree_ok listed
    rw [read]
    have noted := alike.trans (.records t cfg (Gatt.resolve tree).records)
    dsimp only
    cases (Gatt.resolve tree).result with
    | error f => exact ⟨_, noted, rfl⟩
    | ok handles =>
      generalize (t.onLink fun l => _) = u at noted ⊢
      obtain ⟨loop, told, said⟩ := Alike.shown { u with handleMap := some handles } cfg handles
      refine ⟨{ u with loop }, noted.trans ⟨loop, told, rfl⟩, ?_⟩
      unfold finishSetUp
      cases cfg.mode with
      | error f => exact congrArg (·, some f) said
      | ok mode => exact congrArg (·.becomeReady cfg env session mode handles, none) said

/-- The failure that the set-up ends with is the failure to read the tree, or else that of the
way of ingestion. -/
theorem setUp_snd (s : Supervisor δ) (cfg : Settings δ) (env : Surroundings) (session : Nat)
    (tree : Gatt.Tree) : (s.setUp cfg env session tree).2 = match cfg.reads tree, cfg.mode with
      | .error f, _ => some f
      | .ok _, .error f => some f
      | .ok _, .ok _ => none := by
  obtain ⟨t, -, same⟩ := s.setUp_eq cfg env session tree
  rw [same]
  unfold finishSetUp
  cases cfg.reads tree with
  | error f => rfl
  | ok handles =>
    cases cfg.mode with
    | error f => rfl
    | ok mode => rfl

end Supervisor

end SensorLink
