/-
# What a polling ingestion has on the loop

A polling ingestion has the timer of its next tick on the loop, and the reads that it
issued and that have not ended.  `Spares` says of a callback that it leaves all this
alone.  Whatever else happens around the ingestion spares it: the connection may
change, the store, the sessions and all other ingestions, and values may arrive.

The ingestion's own operations are described by what they do to it.  A tick issues
reads and sets the timer of the next tick, the end of a read makes room for another,
and disarming forgets them all.
-/

import Mathlib.Data.List.Nodup
import SensorLink.Proofs.Ingestion.Ownership

namespace SensorLink

namespace Link

open Gatt (Ending Entry HandleMap)
open Sensor (Kind)

variable {δ : Type}

/-- The number of a tick of an ingestion, if a timer is one. -/
def TimerId.tick? (i : Nat) : TimerId → Option Nat
  | tick j n => if j = i then some n else none
  | retry _ | discovery .. => none

/-- The kind of a read that an ingestion issues, if an effect does. -/
def Effect.issue? (i : Nat) : Effect δ → Option Kind
  | spawn (.read j kind _) => if j = i then some kind else none
  | _ => none

namespace Loop

/-- The ticks of an ingestion that are pending. -/
def pendingTicks (l : Loop δ) (i : Nat) : List Nat :=
  l.timers.filterMap (TimerId.tick? i)

/-- The kinds of the reads that an ingestion has issued. -/
def issued (l : Loop δ) (i : Nat) : List Kind :=
  l.tape.filterMap (Effect.issue? i)

/-- A read of a kind for an ingestion has not ended. -/
def Outstanding (l : Loop δ) (i : Nat) (kind : Kind) : Prop :=
  ∃ n, l.isLive (.read i kind n) = true

theorem mem_pendingTicks {l : Loop δ} {i n : Nat} :
    n ∈ l.pendingTicks i ↔ .tick i n ∈ l.timers := by
  rw [pendingTicks, List.mem_filterMap]
  constructor
  · rintro ⟨timer, live, same⟩
    cases timer with
    | tick j m =>
      rw [TimerId.tick?, Option.ite_none_right_eq_some] at same
      obtain ⟨rfl, number⟩ := same
      exact Option.some.inj number ▸ live
    | retry | discovery => cases same
  · exact fun live => ⟨_, live, if_pos rfl⟩

theorem pendingTicks_congr {l l' : Loop δ} (same : l'.timers = l.timers) (i : Nat) :
    l'.pendingTicks i = l.pendingTicks i := by
  rw [pendingTicks, same, pendingTicks]

theorem pendingTicks_schedule (l : Loop δ) (i n : Nat) (wait : Wait δ) :
    (l.schedule (.tick i n) wait).pendingTicks i = n :: l.pendingTicks i := by
  rw [pendingTicks, timers_schedule, List.filterMap_cons, TimerId.tick?, if_pos rfl]
  rfl

/-- A timer that is taken away is pending no more. -/
theorem pendingTicks_filter {l l' : Loop δ} {i n : Nat} (only : l.pendingTicks i = [n])
    (gone : l'.timers = l.timers.filter (· != .tick i n)) : l'.pendingTicks i = [] := by
  refine List.eq_nil_iff_forall_not_mem.mpr fun m pending => ?_
  rw [mem_pendingTicks, gone, List.mem_filter, ← mem_pendingTicks, only] at pending
  obtain ⟨mem, other⟩ := pending
  simp [List.mem_singleton.mp mem] at other

theorem issued_emit (l : Loop δ) (e : Effect δ) (i : Nat) :
    (l.emit e).issued i = l.issued i ++ (e.issue? i).toList := by
  rw [issued, emit, List.filterMap_append]
  cases kind : e.issue? i <;> simp [issued, kind]

@[simp]
theorem issued_suspend (l : Loop δ) (task : TaskId) (point : Point) (i : Nat) :
    (l.suspend task point).issued i = l.issued i := rfl

@[simp]
theorem issued_finish (l : Loop δ) (task : TaskId) (how : Finish) (i : Nat) :
    (l.finish task how).issued i = l.issued i :=
  (issued_emit _ _ i).trans (List.append_nil _)

@[simp]
theorem issued_schedule (l : Loop δ) (timer : TimerId) (wait : Wait δ) (i : Nat) :
    (l.schedule timer wait).issued i = l.issued i :=
  (issued_emit _ _ i).trans (List.append_nil _)

@[simp]
theorem issued_unschedule (l : Loop δ) (timer : TimerId) (i : Nat) :
    (l.unschedule timer).issued i = l.issued i :=
  (issued_emit _ _ i).trans (List.append_nil _)

@[simp]
theorem issued_cancel (l : Loop δ) (task : TaskId) (i : Nat) :
    (l.cancel task).issued i = l.issued i := by
  rw [cancel]
  split
  · rfl
  · refine (issued_emit _ _ i).trans ?_
    split <;> exact List.append_nil _

theorem issued_spawn_read (l : Loop δ) (i : Nat) (kind : Kind) (n : Nat) (point : Point) :
    (l.spawn (.read i kind n) point).issued i = l.issued i ++ [kind] := by
  rw [spawn, issued_emit, issued_suspend, Effect.issue?, if_pos rfl]
  rfl

end Loop

/-- An ingestion is left alone, but for the count of its malformed payloads. -/
structure Spares (i : Nat) (l l' : Link δ) : Prop where
  ingestion : ∀ g, l.ingestions[i]? = some g →
    ∃ malformed, l'.ingestions[i]? = some { g with malformed }
  ticks : l'.loop.pendingTicks i = l.loop.pendingTicks i
  reads : ∀ kind n, l'.loop.isLive (.read i kind n) = l.loop.isLive (.read i kind n)
  issued : l'.loop.issued i = l.loop.issued i
  tape : l.loop.tape ⊆ l'.loop.tape

variable {l l' l'' : Link δ} {i : Nat} {g : Ingestion δ} {p : Polling δ}

namespace Spares

theorem refl (i : Nat) (l : Link δ) : Spares i l l where
  ingestion g found := ⟨g.malformed, found⟩
  ticks := rfl
  reads _ _ := rfl
  issued := rfl
  tape := List.Subset.refl _

theorem trans (first : Spares i l l') (second : Spares i l' l'') : Spares i l l'' where
  ingestion g found := by
    obtain ⟨malformed, found'⟩ := first.ingestion g found
    exact second.ingestion { g with malformed } found'
  ticks := second.ticks.trans first.ticks
  reads kind n := (second.reads kind n).trans (first.reads kind n)
  issued := second.issued.trans first.issued
  tape := List.Subset.trans first.tape second.tape

/-- Everything but the ingestions and the loop may change at will. -/
theorem of_same (ingestions : l'.ingestions = l.ingestions) (loop : l'.loop = l.loop) :
    Spares i l l' where
  ingestion g found := ⟨g.malformed, by rw [ingestions]; exact found⟩
  ticks := by rw [loop]
  reads _ _ := by rw [loop]
  issued := by rw [loop]
  tape := by rw [loop]; exact List.Subset.refl _

/-- An effect is written that issues no read of the ingestion. -/
theorem emit (l : Link δ) {e : Effect δ} (other : e.issue? i = none) : Spares i l (l.emit e) where
  ingestion g found := ⟨g.malformed, found⟩
  ticks := rfl
  reads _ _ := rfl
  issued := by rw [Link.emit, onLoop, Loop.issued_emit, other, Option.toList_none, List.append_nil]
  tape := List.subset_append_left _ _

theorem record (i : Nat) (l : Link δ) (cfg : Settings δ) (r : Journal.Record) :
    Spares i l (l.record cfg r) := by
  unfold Link.record
  split
  · exact emit l rfl
  · exact refl i l

theorem note (i : Nat) (l : Link δ) (cfg : Settings δ) (level : Journal.Level) (text : String) :
    Spares i l (l.note cfg level text) :=
  record i l cfg _

theorem noteHandle (i : Nat) (l : Link δ) (cfg : Settings δ) (level : Journal.Level)
    (before : String) (handle : Option Int) (after : String) :
    Spares i l (l.noteHandle cfg level before handle after) := by
  cases handle with
  | none => exact refl i l
  | some handle => exact note i l cfg level _

theorem report {outcome : Link δ × Option Failure} (spares : Spares i l outcome.1) :
    Spares i l (report outcome) := by
  unfold Link.report
  split
  · exact spares.trans (emit _ rfl)
  · exact spares

/-- The count of malformed payloads changes, of this ingestion or of another one. -/
theorem onIngestion (i j : Nat) (l : Link δ) {f : Ingestion δ → Ingestion δ}
    (counts : ∀ g, ∃ malformed, f g = { g with malformed }) :
    Spares i l (l.onIngestion j f) where
  ingestion g found := by
    rw [Link.onIngestion, List.getElem?_modify, found]
    by_cases same : j = i
    · obtain ⟨malformed, counted⟩ := counts g
      exact ⟨malformed, by simp [same, counted]⟩
    · exact ⟨g.malformed, by simp [same]⟩
  ticks := rfl
  reads _ _ := rfl
  issued := rfl
  tape := List.Subset.refl _

theorem transition (i : Nat) (l : Link δ) (cfg : Settings δ) (target : Connection.State)
    (session : Option Nat) : Spares i l (l.transition cfg target session) :=
  (record i l cfg _).trans (of_same rfl rfl)

/-- A payload is taken in. -/
theorem ingest (i j : Nat) (l : Link δ) (cfg : Settings δ) (env : Surroundings) (kind : Kind)
    (payload : List UInt8) : Spares i l (l.ingest cfg env j kind payload).1 := by
  unfold Link.ingest
  split
  · unfold dropMalformed
    have noted := note i l cfg .debug
    dsimp only
    refine trans ?_ (onIngestion i j _ fun g => ⟨_, rfl⟩)
    split
    · exact (noted _).trans (note i _ cfg _ _)
    · exact noted _
  · have counted : Spares i l (l.onIngestion j .forgetMalformed) :=
      onIngestion i j l fun g => ⟨0, rfl⟩
    have stored (store : Store) : Spares i l { l.onIngestion j .forgetMalformed with store } :=
      counted.trans (of_same rfl rfl)
    dsimp only
    split
    · exact ((stored _).trans (note i _ cfg _ _)).trans (emit _ rfl)
    · exact counted.trans (note i _ cfg _ _)

/-- A notification arrives, for this ingestion or for another one. -/
theorem notified (i j : Nat) (l : Link δ) (cfg : Settings δ) (env : Surroundings)
    (handle : Option Int) (payload : List UInt8) :
    Spares i l (l.notified cfg env j handle payload).1 := by
  have searched (session : Nat) : Spares i l (l.lookUp cfg env session handle).1 := by
    unfold Link.lookUp
    split
    · exact refl i l
    · dsimp only
      split
      · exact transition i l cfg _ _
      · exact refl i l
  unfold Link.notified
  split
  · exact refl i l
  · rename_i g _
    split
    · exact noteHandle i l cfg _ _ _ _
    · have found := searched g.session
      split
      · rename_i here
        rw [here] at found
        exact found.trans (noteHandle i _ cfg _ _ _ _)
      · rename_i here
        rw [here] at found
        split
        · exact found
        · split
          · exact found
          · exact found.trans (ingest i j _ cfg env _ payload)

/-- A task goes on, whichever it is. -/
theorem request {task : TaskId} (live : l.loop.isLive task = true) (session : Nat)
    (call : Gatt.Call) (point : Point) : Spares i l (l.request task session call point) where
  ingestion g found := ⟨g.malformed, found⟩
  ticks := rfl
  reads kind n := by
    rw [Link.request, onLoop, Loop.isLive, Loop.point?_emit, Loop.point?_suspend]
    split
    · rename_i same
      rw [same, live]
      rfl
    · rfl
  issued := by
    rw [Link.request, onLoop, Loop.issued_emit, Loop.issued_suspend]
    exact List.append_nil _
  tape := List.subset_append_left _ _

end Spares

/-- Reads of some entries are issued in a tick, one after another. -/
structure Issues (i tick session : Nat) (es : List Entry) (l l' : Link δ) : Prop where
  ingestion : ∀ g p, l.ingestions[i]? = some g → g.strategy = .poll p →
    ∃ inFlight, l'.ingestions[i]? = some { g with strategy := .poll { p with inFlight } } ∧
      ∀ kind, inFlight.get kind =
        if kind ∈ es.map Entry.kind then some (.read i kind tick) else p.inFlight.get kind
  timers : l'.loop.timers = l.loop.timers
  begun : ∀ e ∈ es, l'.loop.point? (.read i e.kind tick) = some (.readStart session e.handle)
  others : ∀ kind n, (n = tick → kind ∉ es.map Entry.kind) →
    l'.loop.point? (.read i kind n) = l.loop.point? (.read i kind n)
  issued : l'.loop.issued i = l.loop.issued i ++ es.map Entry.kind

theorem getElem?_onIngestion (found : l.ingestions[i]? = some g) (f : Ingestion δ → Ingestion δ) :
    (l.onIngestion i f).ingestions[i]? = some (f g) := by
  rw [onIngestion, List.getElem?_modify, found]
  simp

namespace Issues

variable {tick session : Nat} {es es' : List Entry} {e : Entry}

theorem record (i tick session : Nat) (l : Link δ) (cfg : Settings δ) (r : Journal.Record) :
    Issues i tick session [] l (l.record cfg r) := by
  have spares := Spares.record i l cfg r
  have loop : (l.record cfg r).loop.timers = l.loop.timers ∧
      ∀ task, (l.record cfg r).loop.point? task = l.loop.point? task := by
    unfold Link.record
    split <;> exact ⟨rfl, fun _ => rfl⟩
  refine ⟨fun g p found polls => ⟨p.inFlight, ?_, fun kind => by simp⟩, loop.1,
    List.forall_mem_nil _, fun _ _ _ => loop.2 _, by simp [spares.issued]⟩
  unfold Link.record
  split <;> exact found.trans (by rw [← polls])

/-- One read is issued. -/
theorem single (i tick session : Nat) (e : Entry) (l : Link δ) : Issues i tick session [e] l
    ((l.onLoop (·.spawn (.read i e.kind tick) (.readStart session e.handle))).onIngestion i
      (Ingestion.onPolling fun p =>
        { p with inFlight := p.inFlight.set e.kind (some (.read i e.kind tick)) })) where
  ingestion g p found polls := by
    refine ⟨p.inFlight.set e.kind (some (.read i e.kind tick)), ?_, fun kind => ?_⟩
    · rw [getElem?_onIngestion (by exact found), Ingestion.onPolling, polls]
    · rw [Sensor.PerKind.get_set]
      by_cases same : kind = e.kind <;> simp [same]
  timers := rfl
  begun e' mem := by
    obtain rfl := List.mem_singleton.mp mem
    exact (Loop.point?_spawn _ _ _ _).trans (if_pos rfl)
  others kind n other := by
    refine (Loop.point?_spawn _ _ _ _).trans (if_neg ?_)
    intro same
    obtain ⟨rfl, rfl⟩ : kind = e.kind ∧ n = tick := by simpa using same
    exact other rfl (List.mem_singleton_self _)
  issued := Loop.issued_spawn_read _ _ _ _ _

theorem append (first : Issues i tick session es l l') (second : Issues i tick session es' l' l'')
    (apart : ∀ e ∈ es, e.kind ∉ es'.map Entry.kind) :
    Issues i tick session (es ++ es') l l'' where
  ingestion g p found polls := by
    obtain ⟨inFlight, found, reads⟩ := first.ingestion g p found polls
    obtain ⟨inFlight', found', reads'⟩ := second.ingestion _ _ found rfl
    refine ⟨inFlight', found', fun kind => ?_⟩
    rw [reads', reads, List.map_append]
    by_cases new : kind ∈ es'.map Entry.kind
    · rw [if_pos new, if_pos (List.mem_append_right _ new)]
    · simp only [new, if_false, List.mem_append, or_false]
  timers := second.timers.trans first.timers
  begun e mem := by
    rcases List.mem_append.mp mem with before | after
    · exact (second.others _ _ fun _ => apart e before).trans (first.begun e before)
    · exact second.begun e after
  others kind n other := by
    rw [List.map_append, List.mem_append, not_or] at other
    exact (second.others kind n fun same => (other same).2).trans
      (first.others kind n fun same => (other same).1)
  issued := by rw [second.issued, first.issued, List.map_append, List.append_assoc]

/-- A tick issues reads of the entries whose previous read has ended. -/
theorem entries (cfg : Settings δ) (i session tick : Nat) (p : Polling δ) {es : List Entry}
    (distinct : (es.map Entry.kind).Nodup) (l : Link δ) :
    Issues i tick session (es.filter fun e => (p.inFlight.get e.kind).isNone) l
      (es.foldl (fun l e => l.pollEntry cfg i session tick p e) l) := by
  induction es generalizing l with
  | nil => exact ⟨fun g p found polls => ⟨p.inFlight, found.trans (by rw [← polls]), by simp⟩, rfl,
      List.forall_mem_nil _, fun _ _ _ => rfl, (List.append_nil _).symm⟩
  | cons e es ih =>
    rw [List.map_cons, List.nodup_cons] at distinct
    have rest := ih distinct.2 (l.pollEntry cfg i session tick p e)
    rw [List.foldl_cons, List.filter_cons]
    cases read : p.inFlight.get e.kind with
    | some task =>
      have skipped : l.pollEntry cfg i session tick p e =
          l.note cfg .debug ("Previous " ++ e.kind.name ++ " read still pending") := by
        rw [pollEntry, read]
      rw [skipped] at rest ⊢
      exact (record i tick session l cfg _).append rest (List.forall_mem_nil _)
    | none =>
      have issued : Issues i tick session [e] l (l.pollEntry cfg i session tick p e) := by
        rw [pollEntry, read]
        exact single i tick session e l
      refine issued.append rest fun e' mem => ?_
      obtain rfl := List.mem_singleton.mp mem
      intro again
      exact distinct.1 ((List.filter_sublist.map Entry.kind).subset again)

end Issues

end Link

end SensorLink
