/-
# What the threshold of the journal changes

Records are reports, so a threshold that keeps more of them changes nothing else,
as long as it is not the lowest.  At the lowest the set-up lists the discovered tree
before it looks for the sensor characteristics, and a listing asks more of a tree
than the search does.  A tree that cannot be listed ends the set-up: the attempt
fails, and the connection stays in discovery, where at any other threshold it
becomes ready.

So two runs that differ in the lowest threshold are alike exactly if every tree
that is handed to the current connection is complete.
-/

import SensorLink.Link.Seconds
import SensorLink.Proofs.Gatt.Completeness
import SensorLink.Proofs.Supervisor.World

namespace SensorLink

open Gatt (HandleMap Tree)
open Journal (Level)
open Link (Settings Surroundings TaskId)

namespace Link.Settings

variable {δ : Type} {cfg : Settings δ} {tree : Tree}

theorem passes_debug_iff (threshold : Level) :
    Level.debug.passes threshold = true ↔ threshold = .debug := by
  cases threshold <;> decide

/-- Above the lowest threshold a tree is not listed. -/
theorem reads_of_quiet (quiet : cfg.threshold ≠ .debug) :
    cfg.reads tree = (Gatt.resolve tree).result := by
  rw [reads, if_neg]
  rwa [passes_debug_iff]

/-- A complete tree reads alike at every threshold. -/
theorem reads_of_complete (complete : tree.Complete) :
    cfg.reads tree = (Gatt.resolve tree).result := by
  rw [reads]
  split
  · have listed := tree.listing_demands
    cases reading : tree.listing with
    | ok text => rfl
    | error f =>
      rw [reading] at listed
      cases listed with
      | unmet _ _ incomplete => exact absurd complete incomplete
  · rfl

/-- A tree that is not complete cannot be read at the lowest threshold. -/
theorem reads_of_not_complete (verbose : cfg.threshold = .debug) (incomplete : ¬tree.Complete) :
    ∃ f : Failure, f.LacksPart ∧ cfg.reads tree = .error f := by
  have listed := tree.listing_demands
  rw [reads, if_pos ((passes_debug_iff _).mpr verbose)]
  cases reading : tree.listing with
  | ok text =>
    rw [reading] at listed
    cases listed with
    | met _ complete => exact absurd complete incomplete
  | error f =>
    rw [reading] at listed
    cases listed with
    | unmet _ lacks _ => exact ⟨f, lacks, rfl⟩

end Link.Settings

/-- A way of ingestion that cannot be had is refused as a bad value. -/
theorem Link.Choices.kind_of_mode_eq_error (c : Link.Choices) {f : Failure}
    (refused : c.settings.mode = .error f) : f.kind = .value := by
  have named : Link.Mode.named c.mode c.interval = .error f := refused
  unfold Link.Mode.named at named
  split at named
  · cases named
  · split at named
    · cases named
      rfl
    · cases named
  · cases named
    rfl

namespace Supervisor

variable {δ : Type} {cfg cfg' : Settings δ} {env env' : Surroundings} {s s' : Supervisor δ}
  {tree : Tree}

theorem acts_finishWith (task : TaskId) (outcome : Supervisor δ × Option Failure) :
    (finishWith task outcome).loop.acts =
      outcome.1.loop.acts ++ [.ended task (outcome.2.elim .done .failed)] :=
  Link.Loop.acts_emit _ _

/-- Tasks that end alike end with the same failure, or with none. -/
theorem failure_eq_of_alike {task : TaskId} {outcome outcome' : Supervisor δ × Option Failure}
    (alike : (finishWith task outcome).Alike (finishWith task outcome')) :
    outcome'.2 = outcome.2 := by
  have acts := congrArg List.getLast? alike.acts
  rw [acts_finishWith, acts_finishWith, List.getLast?_concat, List.getLast?_concat] at acts
  cases known : outcome.2 <;> cases known' : outcome'.2 <;> simp_all

/-- If supervisors stay alike at two thresholds, of which one is the lowest, then the tree that
was handed to them is complete. -/
theorem complete_of_alike_after (alike : s.Alike s') {event : Event} (hands : s.Hands event tree)
    (quiet : cfg.threshold ≠ .debug)
    (resolves : ∃ handles, (Gatt.resolve tree).result = .ok handles)
    (refused : ∀ f, cfg.mode = .error f → f.kind = .value)
    (after : (s.step cfg env event).Alike (s'.step (cfg.keeping .debug) env' event)) :
    tree.Complete := by
  obtain ⟨n, session, rfl, here⟩ := hands
  have here' : s'.loop.point? (.attempt n) =
      some (.discovering s'.machine.generation session) := by
    rw [alike.point?, here, alike.machine]
  rw [step_of_hands here, step_of_hands here'] at after
  have same := failure_eq_of_alike after
  rw [setUp_snd, setUp_snd] at same
  by_contra incomplete
  obtain ⟨handles, resolved⟩ := resolves
  have verbose : (cfg.keeping .debug).threshold = .debug := rfl
  obtain ⟨f, lacks, unread⟩ := Settings.reads_of_not_complete verbose incomplete
  rw [Settings.reads_of_quiet quiet, resolved, unread] at same
  cases known : cfg.mode with
  | ok mode => simp [known] at same
  | error g =>
    have value := refused g known
    have equal : f = g := by simpa [known] using same
    rw [Failure.LacksPart, equal, value] at lacks
    rcases lacks with missing | mistyped
    · cases missing
    · cases mistyped

end Supervisor

namespace World

variable {δ : Type} {cfg : Settings δ}

theorem agrees_refl (w : World δ) : w.Agrees w :=
  fun _ => ⟨⟨rfl, rfl, rfl⟩, rfl⟩

/-- Above the lowest threshold no threshold changes more than reports. -/
theorem alike_keeping_of_quiet (w : World δ) (quiet : cfg.threshold ≠ .debug)
    {threshold : Level} (still : threshold ≠ .debug) (n : Nat) :
    (w.moment cfg n).Alike (w.moment (cfg.keeping threshold) n) := by
  obtain ⟨seen, states⟩ := drive_alike w.agrees_refl cfg threshold n
    fun _ _ tree _ => by
      rw [Settings.reads_of_quiet quiet, Settings.reads_of_quiet still]
  exact moment_alike w.agrees_refl seen states

/-- The lowest threshold changes no more than reports exactly if all trees that are handed to a
current connection are complete, provided that they can be resolved without a listing and that
an unusable way of ingestion is refused as a bad value. -/
theorem alike_keeping_debug_iff_of_refused (w : World δ) (quiet : cfg.threshold ≠ .debug)
    (refused : ∀ f, cfg.mode = .error f → f.kind = .value)
    (resolves : ∀ n tree, (w.moment cfg n).Hands tree →
      ∃ handles, (Gatt.resolve tree).result = .ok handles) :
    (∀ n, (w.moment cfg n).Alike (w.moment (cfg.keeping .debug) n)) ↔
      ∀ n tree, (w.moment cfg n).Hands tree → tree.Complete := by
  constructor
  · intro alike n tree hands
    have after := (alike (n + 1)).before
    rw [before_succ, before_succ, Supervisor.Moment.after, Supervisor.Moment.after,
      (alike n).event] at after
    exact Supervisor.complete_of_alike_after (alike n).before hands quiet
      (resolves n tree hands) refused after
  · intro complete n
    obtain ⟨seen, states⟩ := drive_alike w.agrees_refl cfg .debug n
      fun m _ tree hands => by
        rw [Settings.reads_of_complete (complete m tree hands),
          Settings.reads_of_complete (complete m tree hands)]
    exact moment_alike w.agrees_refl seen states

/-- Whatever a supervisor's owner chooses, the lowest threshold of the journal changes no more than
reports exactly if all trees that are handed to a current connection are complete. -/
theorem alike_keeping_debug_iff (w : World Float) (c : Link.Choices)
    (quiet : c.threshold ≠ .debug)
    (resolves : ∀ n tree, (w.moment c.settings n).Hands tree →
      ∃ handles, (Gatt.resolve tree).result = .ok handles) :
    (∀ n, (w.moment c.settings n).Alike (w.moment (c.settings.keeping .debug) n)) ↔
      ∀ n tree, (w.moment c.settings n).Hands tree → tree.Complete :=
  w.alike_keeping_debug_iff_of_refused quiet (fun _ => c.kind_of_mode_eq_error) resolves

/-- A world in which events happen one after another in the same surroundings. -/
def scripted (env : Surroundings) (events : List Event) : World δ :=
  fun seen => (env, events.getD seen.length .started)

theorem event_scripted (env : Surroundings) (events : List Event) (cfg : Settings δ) (n : Nat) :
    ((scripted env events).moment cfg n).event = events.getD n .started := by
  rw [moment, scripted, length_drive]

theorem env_scripted (env : Surroundings) (events : List Event) (cfg : Settings δ) (n : Nat) :
    ((scripted env events).moment cfg n).env = env :=
  rfl

end World

namespace Supervisor

variable {δ : Type}

/-- No other tree is handed over. -/
theorem eq_of_hands_connectionTo {env : Surroundings} {cfg : Settings δ} {n : Nat}
    {tree other : Tree}
    (hands : ((World.scripted env (connectionTo tree)).moment cfg n).Hands other) :
    other = tree := by
  obtain ⟨k, session, event, -⟩ := hands
  rw [World.event_scripted] at event
  match n with
  | 0 | 1 | 2 | 3 | _ + 5 => cases event
  | 4 =>
    cases event
    rfl

/-- A sensing service with a thermometer. -/
def thermometerTree : Tree :=
  [{ uuid := some (.text Sensor.serviceUuid)
     handle := .given 1
     characteristics := .given
      [{ uuid := some (.text (Sensor.Kind.uuid .temperature))
         handle := .given 3
         properties := .given ["read", "notify"]
         descriptors := .given [⟨some (.text "2902"), .given 4⟩] }] }]

/-- A thermometer beside a service without an identifier. -/
def partlyNamedTree : Tree :=
  thermometerTree ++ [{ uuid := none, handle := .given 5, characteristics := .given [] }]

/-- A thermometer connects alike whether the least grave records are kept or not. -/
theorem alike_keeping_debug_thermometer :
    let c : Link.Choices := { threshold := .info }
    let w : World Float := .scripted plainWorld (connectionTo thermometerTree)
    c.threshold ≠ .debug ∧ (w.moment c.settings 4).Hands thermometerTree ∧
      (∀ n tree, (w.moment c.settings n).Hands tree →
        ∃ handles, (Gatt.resolve tree).result = .ok handles) ∧
      ∀ n, (w.moment c.settings n).Alike (w.moment (c.settings.keeping .debug) n) := by
  intro c w
  have quiet : c.threshold ≠ .debug := nofun
  have resolves (n : Nat) (tree : Tree) (hands : (w.moment c.settings n).Hands tree) :
      ∃ handles, (Gatt.resolve tree).result = .ok handles := by
    obtain rfl := eq_of_hands_connectionTo hands
    exact ⟨_, rfl⟩
  refine ⟨quiet, ⟨0, 0, rfl, by decide +kernel⟩, resolves, ?_⟩
  apply (w.alike_keeping_debug_iff c quiet resolves).mpr
  intro n tree hands
  obtain rfl := eq_of_hands_connectionTo hands
  decide

/-- Beside a service without an identifier a thermometer is found; but the connection becomes ready
only if the least grave records are not kept. -/
theorem stuck_keeping_debug_partlyNamed :
    let w : World Nat := .scripted plainWorld (connectionTo partlyNamedTree)
    (Gatt.resolve partlyNamedTree).result.isOk = true ∧
      (∀ n, (w.moment (plainSettings.keeping .debug) n).event = (w.moment plainSettings n).event ∧
        (w.moment (plainSettings.keeping .debug) n).env = (w.moment plainSettings n).env) ∧
      (w.moment plainSettings 5).before.machine.state = .ready ∧
      (w.moment (plainSettings.keeping .debug) 5).before.machine.state = .discovering := by
  refine ⟨?_, ?_, ?_, ?_⟩
  · decide +kernel
  · intro n
    rw [World.event_scripted, World.event_scripted, World.env_scripted, World.env_scripted]
    exact ⟨rfl, rfl⟩
  · decide +kernel
  · decide +kernel

end Supervisor

end SensorLink
