/-
# Warnings about malformed payloads

An ingestion counts the malformed payloads that follow one another, over all
kinds, and warns of every tenth.  What it warns of can be read off the payloads
alone that reach it: a payload that is long enough ends a run of malformed ones,
and a run gives one warning for each ten of its payloads.  Whatever else happens
to the link in between, be it to the ingestion's own tasks and timer, to the
state machine, or to the store, plays no part in it.

The count of an ingestion is the length of the run so far, up to multiples of
the threshold.  This is the invariant that carries the induction along a course
of happenings.
-/

import Mathlib.Algebra.GroupWithZero.Nat
import SensorLink.Proofs.Ingestion.Agreement
import SensorLink.Proofs.Store.History

namespace SensorLink

/-- Whether a record warns of malformed payloads.  No other warning begins like these. -/
def Journal.Record.complains (r : Journal.Record) : Bool :=
  r.level = .warning && "Received ".toList.isPrefixOf r.text.toList

namespace Link

open Gatt (Call Ending Entry)
open Sensor (Kind)

variable {δ : Type}

/-- The warning about a number of malformed payloads. -/
def malformedRecord (count : Nat) : Journal.Record :=
  Journal.note .warning ("Received " ++ toString count ++
    " malformed sensor payloads. Check the peripheral firmware.")

/-- The warning about malformed payloads that an effect is. -/
def Effect.complaint? : Effect δ → Option Journal.Record
  | journal r => if r.complains then some r else none
  | _ => none

/-- The warnings about malformed payloads so far. -/
def complaints (l : Link δ) : List Journal.Record :=
  l.loop.tape.filterMap Effect.complaint?

/-- A payload with the kind it is taken for. -/
abbrev Sample := Kind × List UInt8

namespace Sample

/-- Whether a payload is long enough to be decoded. -/
def decodes (p : Sample) : Bool :=
  p.1.width ≤ p.2.length

/-- The longest runs of malformed payloads in a row, between those that decode; where two of
these follow one another the run between them is empty. -/
def malformedRuns (samples : List Sample) : List (List Sample) :=
  samples.splitOnP decodes

/-- The lengths of the runs, if the first of them began `length` payloads ago. -/
def runLengths (length : Nat) (samples : List Sample) : List Nat :=
  ((malformedRuns samples).map List.length).modifyHead (length + ·)

/-- What becomes of a count of malformed payloads. -/
def countAfter (count : Nat) (samples : List Sample) : Nat :=
  samples.foldl (fun count p => recount p.1 p.2 count) count

/-- Whether a payload makes a count reach the threshold. -/
def completes (p : Sample) (count : Nat) : Bool :=
  !p.decodes && malformedThreshold ≤ count + 1

/-- How often a count reaches the threshold on the way. -/
def overruns : (count : Nat) → List Sample → Nat
  | _, [] => 0
  | count, p :: rest => (p.completes count).toNat + overruns (recount p.1 p.2 count) rest

variable {p : Sample}

theorem decodes_iff : p.decodes = true ↔ ∃ value, p.1.decode p.2 = .ok value := by
  unfold decodes Kind.decode
  split <;> simp <;> omega

theorem recount_of_decodes (good : p.decodes = true) (count : Nat) : recount p.1 p.2 count = 0 := by
  obtain ⟨value, decoded⟩ := decodes_iff.mp good
  rw [recount, decoded]

theorem recount_of_short (short : p.decodes = false) (count : Nat) :
    recount p.1 p.2 count = if malformedThreshold ≤ count + 1 then 0 else count + 1 := by
  unfold recount
  split
  · rename_i value decoded
    rw [decodes_iff.mpr ⟨value, decoded⟩] at short
    cases short
  · rfl

/-- A run that goes on has its length, up to multiples of the threshold, as its count. -/
theorem recount_mod (short : p.decodes = false) (length : Nat) :
    recount p.1 p.2 (length % malformedThreshold) = (length + 1) % malformedThreshold := by
  rw [recount_of_short short]
  unfold malformedThreshold
  split <;> omega

/-- A count stays below the threshold. -/
theorem recount_lt {count : Nat} (below : count < malformedThreshold) :
    recount p.1 p.2 count < malformedThreshold := by
  unfold recount malformedThreshold at *
  split
  · omega
  · split <;> omega

theorem runLengths_nil (length : Nat) : runLengths length [] = [length] := rfl

/-- The lengths of the runs are those of the runs that begin with the payloads. -/
theorem runLengths_zero (samples : List Sample) :
    runLengths 0 samples = (malformedRuns samples).map List.length := by
  unfold runLengths
  simp only [Nat.zero_add]
  exact congrFun List.modifyHead_id _

/-- A payload that decodes ends the run, any other makes it longer. -/
theorem runLengths_cons (length : Nat) (p : Sample) (rest : List Sample) :
    runLengths length (p :: rest) =
      if p.decodes then length :: runLengths 0 rest else runLengths (length + 1) rest := by
  rw [runLengths_zero]
  unfold runLengths malformedRuns
  rw [List.splitOnP_cons_eq_if_modifyHead]
  obtain ⟨run, runs, split⟩ := List.exists_cons_of_ne_nil (List.splitOnP_ne_nil decodes rest)
  cases p.decodes with
  | true => simp
  | false =>
    simp only [split, Bool.false_eq_true, if_false, List.modifyHead_cons, List.map_cons,
      List.length_cons]
    rw [Nat.add_assoc, Nat.add_comm 1]

/-- A count overruns once for each time that the threshold fits into a run; what the run gave
before counts for the payloads before. -/
theorem overruns_mod (length : Nat) (samples : List Sample) :
    length / malformedThreshold + overruns (length % malformedThreshold) samples =
      ((runLengths length samples).map (· / malformedThreshold)).sum := by
  induction samples generalizing length with
  | nil => simp [runLengths_nil, overruns]
  | cons p rest ih =>
    rw [runLengths_cons, overruns, completes]
    cases good : p.decodes with
    | true =>
      have later := ih 0
      rw [recount_of_decodes good]
      simpa using later
    | false =>
      have later := ih (length + 1)
      rw [recount_mod good, if_neg Bool.false_ne_true, ← later]
      unfold malformedThreshold
      by_cases full : 10 ≤ length % 10 + 1
      · simp [full]
        omega
      · simp [full]
        omega

/-- The count is what the threshold leaves of the last run. -/
theorem countAfter_mod (length : Nat) (samples : List Sample) :
    countAfter (length % malformedThreshold) samples =
      (runLengths length samples).getLastD 0 % malformedThreshold := by
  induction samples generalizing length with
  | nil => rfl
  | cons p rest ih =>
    rw [runLengths_cons]
    unfold countAfter at ih ⊢
    rw [List.foldl_cons]
    cases good : p.decodes with
    | true =>
      rw [recount_of_decodes good, if_pos rfl]
      refine (ih 0).trans ?_
      cases runs : runLengths 0 rest with
      | nil =>
        rw [runLengths_zero, List.map_eq_nil_iff] at runs
        exact absurd runs (List.splitOnP_ne_nil decodes rest)
      | cons run runs => simp
    | false =>
      rw [recount_mod good, if_neg Bool.false_ne_true]
      exact ih (length + 1)

end Sample

/-- Between two links nothing was counted for ingestion `i`, and no warning was left. -/
structure Ignores (i : Nat) (l l' : Link δ) : Prop where
  count : l'.malformedAt i = l.malformedAt i
  complaints : l'.complaints = l.complaints

namespace Ignores

variable {i : Nat} {l l' l'' : Link δ}

theorem refl (i : Nat) (l : Link δ) : Ignores i l l where
  count := rfl
  complaints := rfl

theorem trans (first : Ignores i l l') (second : Ignores i l' l'') : Ignores i l l'' where
  count := second.count.trans first.count
  complaints := second.complaints.trans first.complaints

/-- Only the loop changes, and nothing that it tells is a warning. -/
theorem onLoop (i : Nat) (l : Link δ) {f : Loop δ → Loop δ} (news : List (Effect δ))
    (grown : (f l.loop).tape = l.loop.tape ++ news)
    (silent : ∀ e ∈ news, e.complaint? = none) : Ignores i l (l.onLoop f) where
  count := rfl
  complaints := by
    have nothing : news.filterMap Effect.complaint? = [] := List.filterMap_eq_nil_iff.mpr silent
    unfold Link.complaints Link.onLoop
    rw [grown, List.filterMap_append, nothing, List.append_nil]

theorem cancel (i : Nat) (l : Link δ) (task : TaskId) :
    Ignores i l (l.onLoop (·.cancel task)) := by
  by_cases live : l.loop.isLive task = true
  · exact onLoop i l [.cancel task] (by rw [Loop.tape_cancel, if_pos live])
      (by simp [Effect.complaint?])
  · exact onLoop i l [] (by rw [Loop.tape_cancel, if_neg live, List.append_nil])
      fun _ mem => absurd mem List.not_mem_nil

theorem record (i : Nat) (l : Link δ) (cfg : Settings δ) {r : Journal.Record}
    (other : r.complains = false) : Ignores i l (l.record cfg r) := by
  rw [Link.record]
  split
  · exact onLoop i l _ (Loop.tape_emit ..) (by simp [Effect.complaint?, other])
  · exact refl i l

/-- Only warnings warn. -/
theorem note (i : Nat) (l : Link δ) (cfg : Settings δ) {level : Journal.Level} (text : String)
    (mild : level ≠ .warning) : Ignores i l (l.note cfg level text) := by
  apply record
  simp [Journal.Record.complains, Journal.note, mild]

/-- A record with a handle that is no complaint whatever the handle is. -/
theorem noteHandle (i : Nat) (l : Link δ) (cfg : Settings δ) {level : Journal.Level}
    {before after : String} (handle : Option Int)
    (other : ∀ h : Int, (Journal.note level
      (before ++ Text.handleText h ++ after)).complains = false) :
    Ignores i l (l.noteHandle cfg level before handle after) := by
  cases handle with
  | none => exact refl i l
  | some handle => exact record i l cfg (other handle)

/-- Only the ingestion changes, and its count stays. -/
theorem onIngestion (i : Nat) (l : Link δ) {f : Ingestion δ → Ingestion δ}
    (same : ∀ g, (f g).malformed = g.malformed) : Ignores i l (l.onIngestion i f) where
  count := by rw [malformedAt_onIngestion l i (k := id) same, Option.map_id_fun, id]
  complaints := rfl

theorem foldl {ε : Type} {f : Link δ → ε → Link δ} (each : ∀ l e, Ignores i l (f l e))
    (es : List ε) (l : Link δ) : Ignores i l (es.foldl f l) := by
  induction es generalizing l with
  | nil => exact refl i l
  | cons e rest ih => exact (each l e).trans (ih (f l e))

/-- A failure that is reported is no warning. -/
theorem report {outcome : Link δ × Option Failure} (ignores : Ignores i l outcome.1) :
    Ignores i l (report outcome) := by
  rw [Link.report]
  split
  · exact ignores.trans (onLoop i _ _ (Loop.tape_emit ..) (by simp [Effect.complaint?]))
  · exact ignores

theorem finish (i : Nat) (l : Link δ) (task : TaskId) (how : Finish) :
    Ignores i l (l.onLoop (·.finish task how)) :=
  onLoop i l _ (Loop.tape_finish ..) (by simp [Effect.complaint?])

theorem spawn (i : Nat) (l : Link δ) (task : TaskId) (point : Point) :
    Ignores i l (l.onLoop (·.spawn task point)) :=
  onLoop i l _ (Loop.tape_spawn ..) (by simp [Effect.complaint?])

theorem request (i : Nat) (l : Link δ) (task : TaskId) (session : Nat) (call : Call)
    (point : Point) : Ignores i l (l.request task session call point) :=
  onLoop i l [.request task session call] rfl (by simp [Effect.complaint?])

/-- The state machine complains of refused transitions only. -/
theorem transition (i : Nat) (l : Link δ) (cfg : Settings δ) (target : Connection.State)
    (session : Option Nat) : Ignores i l (l.transition cfg target session) := by
  have other : (l.machine.transitionRecord target).complains = false := by
    unfold Connection.Machine.transitionRecord Journal.Record.complains
    split
    · rfl
    · simp [Journal.note, List.isPrefixOf]
  exact (record i l cfg other).trans ⟨rfl, rfl⟩

end Ignores

section

variable (l : Link δ) (cfg : Settings δ) (env : Surroundings) (i : Nat)

theorem lookUp_ignores (session : Nat) (handle : Option Int) :
    Ignores i l (l.lookUp cfg env session handle).1 := by
  unfold lookUp
  split
  · exact .refl i l
  · dsimp only
    split
    · exact .transition i l cfg _ _
    · exact .refl i l

theorem completeSubscription_ignores (task : TaskId) (kind : Kind) (handle : Option Int)
    (result : Option (Except Failure (List UInt8))) :
    Ignores i l (l.completeSubscription cfg i task kind handle result) := by
  have settled : Ignores i l (l.onIngestion i (Ingestion.settleSubscription task)) := by
    apply Ignores.onIngestion
    intro g
    unfold Ingestion.settleSubscription
    split <;> rfl
  unfold completeSubscription
  split
  · exact settled
  · exact settled.trans (.note i _ cfg _ (by decide))
  · split
    · refine settled.trans (.noteHandle i _ cfg handle fun h => ?_)
      simp [Journal.Record.complains, Journal.note, List.isPrefixOf]
    · exact settled.trans (.record i _ cfg rfl)

theorem beginSubscription_ignores (kind : Kind) (round session : Nat) (handle : Option Int) :
    Ignores i l (l.beginSubscription cfg i kind round session handle) := by
  unfold beginSubscription
  dsimp only
  split
  · exact (Ignores.finish i l _ _).trans (completeSubscription_ignores _ cfg i _ kind handle _)
  · exact .request i l _ session _ _

theorem resumeSubscription_ignores (kind : Kind) (round : Nat) (handle : Option Int)
    (ending : Ending) : Ignores i l (l.resumeSubscription cfg i kind round handle ending) :=
  (Ignores.finish i l _ _).trans (completeSubscription_ignores _ cfg i _ kind handle _)

theorem onPolling_malformed (f : Polling δ → Polling δ) (g : Ingestion δ) :
    (g.onPolling f).malformed = g.malformed := by
  unfold Ingestion.onPolling
  split <;> rfl

theorem scheduleTick_ignores (wait : Wait δ) : Ignores i l (l.scheduleTick i wait) := by
  unfold scheduleTick
  split
  · exact (Ignores.onIngestion i l (by intro g; rfl)).trans
      (.onLoop i _ _ (Loop.tape_schedule ..) (by simp [Effect.complaint?]))
  · exact .refl i l

theorem arm_ignores : Ignores i l (l.arm cfg i) := by
  unfold arm
  split
  · split
    · refine (Ignores.onIngestion i l (by intro g; rfl)).trans (.foldl (fun l e => ?_) _ _)
      exact (Ignores.noteHandle i l cfg _ fun _ => rfl).trans (.spawn i _ _ _)
    · exact (Ignores.onIngestion i l (by intro g; rfl)).trans (scheduleTick_ignores _ i _)
  · exact .refl i l

theorem pollEntry_ignores (session tick : Nat) (p : Polling δ) (e : Entry) :
    Ignores i l (l.pollEntry cfg i session tick p e) := by
  unfold pollEntry
  split
  · exact .note i l cfg _ (by decide)
  · exact (Ignores.spawn i l _ _).trans (.onIngestion i _ (onPolling_malformed _))

theorem pollOnce_ignores (g : Ingestion δ) (p : Polling δ) :
    Ignores i l (l.pollOnce cfg i g p) := by
  unfold pollOnce
  split
  · exact .foldl (fun l e => pollEntry_ignores l cfg i g.session p.ticks p e) _ l
  · exact .note i l cfg _ (by decide)

theorem tick_ignores : Ignores i l (l.tick cfg i) := by
  have quiet (l : Link δ) (f : Polling δ → Polling δ) :
      Ignores i l (l.onIngestion i (Ingestion.onPolling f)) :=
    .onIngestion i l (onPolling_malformed f)
  unfold tick
  split
  · split
    · dsimp only
      split
      · exact (((quiet l _).trans (quiet _ _)).trans (pollOnce_ignores _ cfg i _ _)).trans
          (scheduleTick_ignores _ i _)
      · exact quiet l _
    · exact .refl i l
  · exact .refl i l

theorem disarm_ignores : Ignores i l (l.disarm i) := by
  unfold disarm
  split
  · rename_i g _
    have cancelled (l : Link δ) : Ignores i l
        (g.pendingTasks.foldl (fun l task => l.onLoop (·.cancel task)) l) :=
      .foldl (.cancel i) _ l
    have forgotten (l : Link δ) : Ignores i l (l.onIngestion i .disarmed) :=
      .onIngestion i l fun _ => rfl
    dsimp only
    split
    · refine Ignores.trans ?_ ((cancelled _).trans (forgotten _))
      exact .onLoop i l _ (Loop.tape_unschedule ..) (by simp [Effect.complaint?])
    · exact (cancelled l).trans (forgotten _)
  · exact .refl i l

/-- What ends otherwise than with a payload for an ingestion in service is not counted. -/
theorem completeRead_ignores (task : TaskId) (kind : Kind)
    (result : Option (Except Failure (List UInt8)))
    (empty : ∀ payload g, result = some (.ok payload) → l.ingestions[i]? = some g →
      l.isStale g = true) : Ignores i l (l.completeRead cfg env i task kind result).1 := by
  have settled : Ignores i l (l.onIngestion i (.settleRead kind task)) :=
    .onIngestion i l (onPolling_malformed _)
  unfold completeRead
  cases result with
  | none => exact settled
  | some result =>
    dsimp only
    split
    · exact settled
    · rename_i g here
      split
      · exact settled.trans (.note i _ cfg _ (by decide))
      · rename_i current
        cases result with
        | error f =>
          dsimp only
          split
          · exact settled.trans (.note i _ cfg _ (by decide))
          · exact settled.trans (.record i _ cfg rfl)
        | ok payload =>
          rw [onIngestion, List.getElem?_modify_eq, Option.map_eq_map,
            Option.map_eq_some_iff] at here
          obtain ⟨g', before, rfl⟩ := here
          have stale := empty payload g' rfl before
          rw [← isStale_congr l (settleRead_duty kind task g')] at stale
          exact absurd stale current

theorem beginRead_ignores (kind : Kind) (tick session : Nat) (handle : Option Int) :
    Ignores i l (l.beginRead cfg env i kind tick session handle) := by
  unfold beginRead
  dsimp only
  split
  · exact ((Ignores.finish i l _ _).trans
      (completeRead_ignores _ cfg env i _ kind _ (by rintro _ _ ⟨⟩))).report
  · exact .request i l _ session _ _

end

/-- The warning of a full count is kept. -/
theorem complaints_malformedRecord (l : Link δ) {cfg : Settings δ}
    (kept : Journal.Level.warning.passes cfg.threshold = true) :
    (l.record cfg (malformedRecord malformedThreshold)).complaints =
      l.complaints ++ [malformedRecord malformedThreshold] := by
  have complains : (malformedRecord malformedThreshold).complains = true := by decide
  have written : l.record cfg (malformedRecord malformedThreshold) =
      l.emit (.journal (malformedRecord malformedThreshold)) := if_pos kept
  rw [written]
  simp [complaints, emit, onLoop, Effect.complaint?, complains]

/-- A payload that reaches an ingestion gives a warning if it completes a count. -/
theorem complaints_ingest {l : Link δ} {i count : Nat} {cfg : Settings δ}
    (kept : Journal.Level.warning.passes cfg.threshold = true)
    (counted : l.malformedAt i = some count) (below : count < malformedThreshold)
    (env : Surroundings) (p : Sample) :
    (l.ingest cfg env i p.1 p.2).1.complaints = l.complaints ++
      List.replicate (p.completes count).toNat (malformedRecord malformedThreshold) := by
  have good := Sample.decodes_iff (p := p)
  have noted (l : Link δ) {level : Journal.Level} (text : String) (mild : level ≠ .warning) :
      (l.note cfg level text).complaints = l.complaints :=
    (Ignores.note i l cfg text mild).complaints
  unfold ingest Sample.completes
  cases decoded : p.1.decode p.2 with
  | ok value =>
    have told (l : Link δ) : (l.emit (.reading p.1 value)).complaints = l.complaints :=
      (Ignores.onLoop i l _ (Loop.tape_emit ..) (by simp [Effect.complaint?])).complaints
    rw [good.mpr ⟨value, decoded⟩, Bool.not_true, Bool.false_and, Bool.toNat_false,
      List.replicate_zero, List.append_nil]
    dsimp only
    split
    · rw [told, noted _ _ (by decide)]
      rfl
    · rw [noted _ _ (by decide)]
      rfl
  | error f =>
    have short : p.decodes = false := by
      rw [← Bool.not_eq_true, good, decoded]
      rintro ⟨value, ⟨⟩⟩
    have here : l.ingestions[i]?.elim 0 Ingestion.malformed = count := by
      obtain ⟨g, found, same⟩ := Option.map_eq_some_iff.mp counted
      rw [found]
      exact same
    rw [short, Bool.not_false, Bool.true_and]
    unfold dropMalformed
    dsimp only
    rw [here]
    have counts (l : Link δ) : (l.onIngestion i .countMalformed).complaints = l.complaints := rfl
    by_cases full : malformedThreshold ≤ count + 1
    · obtain rfl : count = 9 := by
        unfold malformedThreshold at full below
        omega
      rw [if_pos full, counts]
      refine (complaints_malformedRecord _ kept).trans ?_
      rw [noted _ _ (by decide)]
      rfl
    · rw [if_neg full, counts, noted _ _ (by decide), decide_eq_false full]
      simp

/-! ## Courses of happenings -/

/-- What happens to a link while an ingestion is about: the callbacks of the ingestion's own tasks
and timer, and what others do to the link. -/
inductive Happening where
  | notified (env : Surroundings) (handle : Option Int) (payload : List UInt8)
  | readBegins (env : Surroundings) (kind : Kind) (tick session : Nat) (handle : Option Int)
  | readEnds (env : Surroundings) (kind : Kind) (tick : Nat) (handle : Option Int) (ending : Ending)
  | subscriptionBegins (kind : Kind) (round session : Nat) (handle : Option Int)
  | subscriptionEnds (kind : Kind) (round : Nat) (handle : Option Int) (ending : Ending)
  | ticked
  | armed
  | disarmed
  /-- The store is used by anyone. -/
  | stored (operation : Store.Operation)
  /-- The state machine is asked for a transition by anyone. -/
  | asked (target : Connection.State) (session : Option Nat)
  | released (session : Nat)

/-- The link after something happened around ingestion `i`. -/
def undergo (cfg : Settings δ) (i : Nat) (l : Link δ) : Happening → Link δ
  | .notified env handle payload => report (l.notified cfg env i handle payload)
  | .readBegins env kind tick session handle => l.beginRead cfg env i kind tick session handle
  | .readEnds env kind tick handle ending => l.resumeRead cfg env i kind tick handle ending
  | .subscriptionBegins kind round session handle =>
    l.beginSubscription cfg i kind round session handle
  | .subscriptionEnds kind round handle ending =>
    l.resumeSubscription cfg i kind round handle ending
  | .ticked => l.tick cfg i
  | .armed => l.arm cfg i
  | .disarmed => l.disarm i
  | .stored operation => { l with store := (l.store.perform operation).1 }
  | .asked target session => l.transition cfg target session
  | .released session => l.release session

/-- The payload that reaches an ingestion in service, with the kind it is taken for: that of the
handle in the tree of the session's client, or the one that a read brings along. -/
def sample? (l : Link δ) (i : Nat) : Happening → Option Sample
  | .notified env handle payload => l.ingestions[i]?.bind fun g =>
      if l.isStale g then none else (l.kindAt env g.session handle).map (·, payload)
  | .readEnds _ kind _ _ (.returned payload) => l.ingestions[i]?.bind fun g =>
      if l.isStale g then none else some (kind, payload)
  | _ => none

/-- The link after a course of happenings. -/
def undergoAll (cfg : Settings δ) (i : Nat) (l : Link δ) (course : List Happening) : Link δ :=
  course.foldl (undergo cfg i) l

/-- The payloads that reach an ingestion in service in a course of happenings. -/
def samples (cfg : Settings δ) (i : Nat) : Link δ → List Happening → List Sample
  | _, [] => []
  | l, h :: rest => (l.sample? i h).toList ++ samples cfg i (l.undergo cfg i h) rest

/-- A notification for an ingestion in service is taken in under the kind of its handle, and
without one it is not counted. -/
theorem notified_of_current {l : Link δ} {i : Nat} {g : Ingestion δ} (cfg : Settings δ)
    (env : Surroundings) (handle : Option Int) (payload : List UInt8)
    (here : l.ingestions[i]? = some g) (current : l.isStale g = false) :
    match l.kindAt env g.session handle with
    | some kind => l.notified cfg env i handle payload =
        (l.lookUp cfg env g.session handle).1.ingest cfg env i kind payload
    | none => Ignores i l (l.notified cfg env i handle payload).1 := by
  have looked := lookUp_ignores l cfg env i g.session handle
  rw [l.kindAt_eq cfg env g.session handle]
  unfold notified
  simp only [here, current, Bool.false_eq_true, if_false]
  generalize l.lookUp cfg env g.session handle = found at looked ⊢
  obtain ⟨l', characteristic⟩ := found
  cases characteristic with
  | none => exact looked.trans (.noteHandle i l' cfg _ fun _ => rfl)
  | some c =>
    cases named : c.uuid with
    | none => simpa [named, Gatt.requireUuid] using looked
    | some u =>
      cases known : Kind.ofUuid? u.spelling with
      | none => simpa [named, known, Gatt.requireUuid] using looked
      | some kind => simp [named, known, Gatt.requireUuid]

/-- What reaches no ingestion in service is neither counted nor warned of. -/
theorem undergo_ignores {l : Link δ} (cfg : Settings δ) {i : Nat} {h : Happening}
    (apart : l.sample? i h = none) : Ignores i l (l.undergo cfg i h) := by
  cases h with
  | notified env handle payload =>
    apply Ignores.report
    simp only [sample?] at apart
    cases here : l.ingestions[i]? with
    | none => simpa [notified, here] using Ignores.refl i l
    | some g =>
      rw [here, Option.bind_some] at apart
      cases stale : l.isStale g with
      | true => simpa [notified, here, stale] using Ignores.noteHandle i l cfg _ fun _ => rfl
      | false =>
        have taken := notified_of_current cfg env handle payload here stale
        rw [stale, if_neg Bool.false_ne_true, Option.map_eq_none_iff] at apart
        rwa [apart] at taken
  | readEnds env kind tick handle ending =>
    refine Ignores.report ((Ignores.finish i l _ _).trans
      (completeRead_ignores _ cfg env i _ kind _ ?_))
    intro payload g returned here
    obtain rfl := Ending.result?_eq_ok_iff.mp returned
    have found : l.ingestions[i]? = some g := here
    have stale : l.isStale g = true := by simpa [sample?, found] using apart
    exact stale
  | readBegins env kind tick session handle =>
    exact beginRead_ignores l cfg env i kind tick session handle
  | subscriptionBegins kind round session handle =>
    exact beginSubscription_ignores l cfg i kind round session handle
  | subscriptionEnds kind round handle ending =>
    exact resumeSubscription_ignores l cfg i kind round handle ending
  | ticked => exact tick_ignores l cfg i
  | armed => exact arm_ignores l cfg i
  | disarmed => exact disarm_ignores l i
  | stored operation => exact ⟨rfl, rfl⟩
  | asked target session => exact .transition i l cfg target session
  | released session => exact ⟨rfl, rfl⟩

/-- What reaches an ingestion in service is taken in, after nothing that counts. -/
theorem undergo_takes {l : Link δ} (cfg : Settings δ) {i : Nat} {h : Happening} {p : Sample}
    (reached : l.sample? i h = some p) :
    ∃ (l' : Link δ) (env : Surroundings), Ignores i l l' ∧
      l.undergo cfg i h = report (l'.ingest cfg env i p.1 p.2) := by
  cases h with
  | notified env handle payload =>
    obtain ⟨g, here, taken⟩ := Option.bind_eq_some_iff.mp reached
    rw [Option.ite_none_left_eq_some, Bool.not_eq_true, Option.map_eq_some_iff] at taken
    obtain ⟨current, kind, known, rfl⟩ := taken
    have same := notified_of_current cfg env handle payload here current
    rw [known] at same
    exact ⟨_, env, lookUp_ignores l cfg env i g.session handle, congrArg report same⟩
  | readEnds env kind tick handle ending =>
    cases ending with
    | returned payload =>
      obtain ⟨g, here, taken⟩ := Option.bind_eq_some_iff.mp reached
      rw [Option.ite_none_left_eq_some, Bool.not_eq_true, Option.some.injEq] at taken
      obtain ⟨current, rfl⟩ := taken
      have same := completeRead_returned (l := l.onLoop (·.finish (.read i kind tick) .done)) cfg
        env (.read i kind tick) kind payload here current
      exact ⟨_, env, (Ignores.finish i l _ _).trans (.onIngestion i _ (onPolling_malformed _)),
        congrArg report same⟩
    | raised | timedOut | cancelled => cases reached
  | readBegins | subscriptionBegins | subscriptionEnds | ticked | armed | disarmed | stored | asked
  | released => cases reached

/-- While its link undergoes a course, an ingestion counts what reaches it, and warns whenever its
count is full. -/
theorem undergoAll_counts (cfg : Settings δ) {i count : Nat} (below : count < malformedThreshold)
    {l : Link δ} (counted : l.malformedAt i = some count) (course : List Happening) :
    (l.undergoAll cfg i course).malformedAt i =
        some (Sample.countAfter count (l.samples cfg i course)) ∧
      (Journal.Level.warning.passes cfg.threshold = true →
        (l.undergoAll cfg i course).complaints = l.complaints ++
          List.replicate (Sample.overruns count (l.samples cfg i course))
            (malformedRecord malformedThreshold)) := by
  induction course generalizing l count with
  | nil => exact ⟨counted, fun _ => (List.append_nil _).symm⟩
  | cons h rest ih =>
    rw [undergoAll, List.foldl_cons, samples]
    cases reached : l.sample? i h with
    | none =>
      have apart := undergo_ignores cfg reached
      obtain ⟨count', complaints⟩ := ih below (apart.count.trans counted)
      refine ⟨count', fun kept => ?_⟩
      rw [← apart.complaints]
      exact complaints kept
    | some p =>
      obtain ⟨l', env, before, taken⟩ := undergo_takes cfg reached
      have counted' := before.count.trans counted
      have after : (l.undergo cfg i h).malformedAt i = some (recount p.1 p.2 count) := by
        rw [taken, malformedAt_report, malformedAt_ingest, counted', Option.map_some]
      obtain ⟨count', complaints⟩ := ih (Sample.recount_lt below) after
      refine ⟨count', fun kept => ?_⟩
      have warned : (l.undergo cfg i h).complaints = l.complaints ++
          List.replicate (p.completes count).toNat (malformedRecord malformedThreshold) := by
        rw [taken, ((Ignores.refl i (l'.ingest cfg env i p.1 p.2).1).report).complaints,
          complaints_ingest kept counted' below env p, before.complaints]
      refine (complaints kept).trans ?_
      rw [warned, List.append_assoc, ← List.replicate_add]
      rfl

/-- A happening brings a payload to an ingestion that serves a session: a read returns it, or it is
notified for a handle that the session's tree gives its kind. -/
def Happening.Brings (session : Nat) (p : Sample) : Happening → Prop
  | .notified env handle payload =>
    (∀ session handle, (env.lookup session handle).supersedes = false) ∧
      ((env.lookup session handle).characteristic.bind fun c =>
        c.uuid.bind fun u => Kind.ofUuid? u.spelling) = some p.1 ∧ payload = p.2
  | .readEnds _ kind _ _ ending => kind = p.1 ∧ ending = .returned p.2
  | _ => False

/-- What is brought to an ingestion in service reaches it, and the ingestion serves on. -/
theorem Serves.brought {l : Link δ} {i session : Nat} (cfg : Settings δ)
    (serves : l.Serves i session) {h : Happening} {p : Sample} (brings : h.Brings session p) :
    l.sample? i h = some p ∧ (l.undergo cfg i h).Serves i session := by
  obtain ⟨g, here, rfl, current⟩ := serves.exists_ingestion
  have on {taken : List Taken} {l' : Link δ} (works : Works i l taken l') :
      l'.Serves i g.session :=
    ⟨by rw [works.duties, works.machine, serves.duty],
      by rw [isReleased, works.sessions]; exact serves.held⟩
  cases h with
  | notified env handle payload =>
    obtain ⟨calm, known, rfl⟩ := brings
    refine ⟨?_, on (notified_works l cfg i handle p.2 calm).report⟩
    simp [sample?, here, current, kindAt, serves.held, known]
  | readEnds env kind tick handle ending =>
    obtain ⟨rfl, rfl⟩ := brings
    refine ⟨?_, on (resumeRead_works l cfg env i p.1 tick handle (.returned p.2))⟩
    simp [sample?, here, current]
  | readBegins | subscriptionBegins | subscriptionEnds | ticked | armed | disarmed | stored | asked
  | released => exact brings.elim

/-- All that is brought to an ingestion in service reaches it, in its order. -/
theorem Serves.samples_eq {l : Link δ} {i session : Nat} (cfg : Settings δ)
    (serves : l.Serves i session) {deliveries : List (Happening × Sample)}
    (each : ∀ d ∈ deliveries, d.1.Brings session d.2) :
    l.samples cfg i (deliveries.map Prod.fst) = deliveries.map Prod.snd := by
  induction deliveries generalizing l with
  | nil => rfl
  | cons d rest ih =>
    obtain ⟨reached, on⟩ := serves.brought cfg (each d List.mem_cons_self)
    have later := ih on fun d mem => each d (List.mem_cons_of_mem _ mem)
    rw [List.map_cons, List.map_cons, samples, reached, later]
    rfl

/-! ## The law of warnings -/

/-- What ingestion `i` counts and warns of while its link undergoes a course of happenings. -/
structure CountsRuns (cfg : Settings δ) (i : Nat) (l : Link δ) (course : List Happening) :
    Prop where
  /-- Each of the longest runs of malformed payloads gives one warning for each ten of its payloads,
  and every warning reports ten, where the journal keeps warnings at all. -/
  warnings : Journal.Level.warning.passes cfg.threshold = true →
    (l.undergoAll cfg i course).complaints = l.complaints ++
      List.replicate ((Sample.malformedRuns (l.samples cfg i course)).map
        fun run => run.length / malformedThreshold).sum (malformedRecord malformedThreshold)
  /-- The count is what the threshold leaves of the last run. -/
  count : (l.undergoAll cfg i course).malformedAt i =
    some (((Sample.malformedRuns (l.samples cfg i course)).getLastD []).length %
      malformedThreshold)
  /-- So it stays below the threshold. -/
  below : ∀ count, (l.undergoAll cfg i course).malformedAt i = some count →
    count < malformedThreshold
  /-- All payloads that are brought to an ingestion in service reach it, in their order. -/
  served : ∀ (session : Nat) (deliveries : List (Happening × Sample)),
    (l.undergoAll cfg i course).Serves i session →
    (∀ d ∈ deliveries, d.1.Brings session d.2) →
      (l.undergoAll cfg i course).samples cfg i (deliveries.map Prod.fst) =
        deliveries.map Prod.snd
  /-- A read that ends without a payload is neither counted nor warned of. -/
  unread : ∀ env kind tick handle ending, (∀ payload, ending ≠ .returned payload) →
    Ignores i (l.undergoAll cfg i course)
      ((l.undergoAll cfg i course).undergo cfg i (.readEnds env kind tick handle ending))
  /-- Neither is anything while the ingestion is stale. -/
  stale : ∀ g, (l.undergoAll cfg i course).ingestions[i]? = some g →
    (l.undergoAll cfg i course).isStale g = true → ∀ h,
      Ignores i (l.undergoAll cfg i course) ((l.undergoAll cfg i course).undergo cfg i h)
  /-- Neither is a notification for a handle of no kind. -/
  unknown : ∀ g env handle payload, (l.undergoAll cfg i course).ingestions[i]? = some g →
    (l.undergoAll cfg i course).kindAt env g.session handle = none →
      Ignores i (l.undergoAll cfg i course)
        ((l.undergoAll cfg i course).undergo cfg i (.notified env handle payload))
  /-- A payload that reaches the ingestion and is long enough ends the count, whatever the store
  makes of its value. -/
  forgets : ∀ h p, (l.undergoAll cfg i course).sample? i h = some p → p.decodes = true →
    ((l.undergoAll cfg i course).undergo cfg i h).malformedAt i = some 0

/-- **Warnings count runs.** A new ingestion, whose link undergoes any course of happenings, warns
as often as ten malformed payloads follow one another among those that reach it in service, counts
what is left of the last run, and counts nothing else. -/
theorem warnings_count_runs (cfg : Settings δ) {i : Nat} {l : Link δ}
    (new : l.malformedAt i = some 0) (course : List Happening) : CountsRuns cfg i l course := by
  obtain ⟨counted, warned⟩ := undergoAll_counts cfg (by decide : 0 < malformedThreshold) new course
  have overruns := Sample.overruns_mod 0 (l.samples cfg i course)
  have count := Sample.countAfter_mod 0 (l.samples cfg i course)
  rw [Nat.zero_mod, Sample.runLengths_zero] at overruns count
  rw [Nat.zero_div, Nat.zero_add, List.map_map] at overruns
  have last : ((Sample.malformedRuns (l.samples cfg i course)).map List.length).getLastD 0 =
      ((Sample.malformedRuns (l.samples cfg i course)).getLastD []).length := by
    cases runs : Sample.malformedRuns (l.samples cfg i course) using List.reverseRec with
    | nil => rfl
    | append_singleton runs run => simp
  rw [last] at count
  rw [overruns] at warned
  rw [count] at counted
  refine ⟨warned, counted, ?_, ?_, ?_, ?_, ?_, ?_⟩
  · intro count' same
    rw [counted] at same
    obtain rfl := Option.some.inj same
    exact Nat.mod_lt _ (by decide)
  · exact fun session deliveries serves each => serves.samples_eq cfg each
  · intro env kind tick handle ending failed
    apply undergo_ignores
    cases ending with
    | returned payload => exact absurd rfl (failed payload)
    | raised | timedOut | cancelled => rfl
  · intro g here stale h
    apply undergo_ignores
    unfold sample?
    split <;> simp [here, stale]
  · intro g env handle payload here unknown
    apply undergo_ignores
    simp [sample?, here, unknown]
  · intro h p reached good
    obtain ⟨l', env, before, taken⟩ := undergo_takes cfg reached
    rw [taken, malformedAt_report, malformedAt_ingest, before.count, counted, Option.map_some,
      Sample.recount_of_decodes good]

/-- A course in which a run of thirteen, of which the last is read, ends by a payload that a
disconnected store refuses; two more follow around a read that fails. -/
def interruptedCourse : List Happening :=
  let short : Happening := .notified Supervisor.plainWorld (some 1) [0x00]
  List.replicate 12 short ++
    [.readEnds Supervisor.plainWorld .humidity 0 (some 7) (.returned []),
      .stored (.setConnected false), .notified Supervisor.plainWorld (some 1) [0x34, 0x08], short,
      .readEnds Supervisor.plainWorld .humidity 1 (some 7) .timedOut, short]

/-- The ten of the longer run give a warning, and two payloads are counted. -/
theorem warnings_count_runs_interrupted :
    let cfg := { Supervisor.plainSettings with threshold := .warning }
    let l := (serving .notify .empty).undergoAll cfg 0 interruptedCourse
    l.complaints = [malformedRecord malformedThreshold] ∧ l.malformedAt 0 = some 2 := by
  intro cfg l
  have new : (serving .notify .empty).malformedAt 0 = some 0 := rfl
  have counts := warnings_count_runs cfg new interruptedCourse
  have full : ((Sample.malformedRuns ((serving .notify .empty).samples cfg 0 interruptedCourse)).map
      fun run => run.length / malformedThreshold).sum = 1 := by decide +kernel
  have left : ((Sample.malformedRuns
      ((serving .notify .empty).samples cfg 0 interruptedCourse)).getLastD []).length %
        malformedThreshold = 2 := by decide +kernel
  have warned := counts.warnings rfl
  have counted := counts.count
  rw [full] at warned
  rw [left] at counted
  exact ⟨warned, counted⟩

end Link

end SensorLink
