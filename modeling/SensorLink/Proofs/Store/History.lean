/-
# What the store owes to its history

Any number of clients use the store, each operation in one critical section, so
what happened to a store is a list of operations, whoever asked for them, and
every interleaving of the clients is such a list.  Connectivity is set by some
operations, values by others, and whether a value counts as observed depends on
both.

The main statement says all that a store shows, and all that it answers next, in
terms of its history alone: the last change of the connectivity, the writes that
found the store online, and whether one of them came after the store last went
offline.  It is an induction on the history, whose latest operation stands last.
-/

import Mathlib.Data.List.Induction
import SensorLink.Store

namespace SensorLink.Store

open Sensor (Kind PerKind Reading)

/-- What a client asks of the store. -/
inductive Operation where
  | write (kind : Kind) (value : Float)
  | setConnected (connected : Bool)
  | read (kind : Kind)
  | isConnected
  | snapshot

/-- What the store answers. -/
inductive Answer where
  | accepted (stored : Bool)
  | done
  | reading (r : Reading)
  | connectivity (connected : Bool)
  | snapshot (connected : Bool) (readings : PerKind Reading)

/-- Carry an operation out. -/
def perform (s : Store) : Operation → Store × Answer
  | .write kind value =>
    let (s, stored) := s.write kind value
    (s, .accepted stored)
  | .setConnected connected => (s.setConnected connected, .done)
  | .read kind => (s, .reading (s.read kind))
  | .isConnected => (s, .connectivity s.connected)
  | .snapshot => (s, .snapshot s.snapshot.1 s.snapshot.2)

/-- An operation and the client that asked for it. -/
structure Request (ι : Type) where
  client : ι
  operation : Operation

variable {ι : Type}

/-- The store after a history. -/
def after (history : List (Request ι)) : Store :=
  history.foldl (fun s r => (s.perform r.operation).1) fresh

theorem after_concat (history : List (Request ι)) (r : Request ι) :
    after (history ++ [r]) = ((after history).perform r.operation).1 := by
  rw [after, List.foldl_append]
  rfl

/-- The connectivity that an operation sets. -/
def Operation.connectivity? : Operation → Option Bool
  | setConnected connected => some connected
  | _ => none

/-- The last change of the connectivity was to online. -/
def Online (history : List (Request ι)) : Prop :=
  (history.filterMap (·.operation.connectivity?)).getLast? = some true

/-- At a position there is a write, and the history before it left the store online. -/
structure Accepts (history : List (Request ι)) (n : Nat) (kind : Kind) (value : Float) : Prop where
  written : history[n]?.map Request.operation = some (.write kind value)
  online : Online (history.take n)

/-- A value is that of the last accepted write of a kind, or zero if there was none. -/
def LastAccepted (history : List (Request ι)) (kind : Kind) (value : Float) : Prop :=
  (∃ n, Accepts history n kind value ∧ ∀ m v, Accepts history m kind v → m ≤ n) ∨
    (∀ n v, ¬Accepts history n kind v) ∧ value = 0

/-- A write of a kind was accepted, and the store was not taken offline since. -/
def AcceptedSince (history : List (Request ι)) (kind : Kind) : Prop :=
  ∃ n v, Accepts history n kind v ∧
    ∀ m, n < m → history[m]?.map Request.operation ≠ some (.setConnected false)

/-- The latest operation decides on the connectivity if it sets it. -/
theorem online_concat (history : List (Request ι)) (r : Request ι) :
    Online (history ++ [r]) ↔
      r.operation.connectivity? = some true ∨
        r.operation.connectivity? = none ∧ Online history := by
  unfold Online
  rw [List.filterMap_append]
  cases set : r.operation.connectivity? with
  | none => simp [set]
  | some connected => simp [set]

/-- The operation at a position of a history that is one longer. -/
theorem operation_concat (history : List (Request ι)) (r : Request ι) (n : Nat) (op : Operation) :
    (history ++ [r])[n]?.map Request.operation = some op ↔
      history[n]?.map Request.operation = some op ∨ n = history.length ∧ r.operation = op := by
  rcases Nat.lt_trichotomy n history.length with earlier | rfl | beyond
  · rw [List.getElem?_append_left earlier]
    simp [Nat.ne_of_lt earlier]
  · simp
  · have outside : history[n]? = none := List.getElem?_eq_none (Nat.le_of_lt beyond)
    have outside' : (history ++ [r])[n]? = none := by
      apply List.getElem?_eq_none
      rw [List.length_append, List.length_singleton]
      exact beyond
    simp [outside, outside', Nat.ne_of_gt beyond]

/-- The latest operation is an accepted write, or the writes are those of before. -/
theorem accepts_concat (history : List (Request ι)) (r : Request ι) (n : Nat) (kind : Kind)
    (value : Float) : Accepts (history ++ [r]) n kind value ↔
      Accepts history n kind value ∨
        n = history.length ∧ r.operation = .write kind value ∧ Online history := by
  have before (within : n ≤ history.length) : (history ++ [r]).take n = history.take n :=
    List.take_append_of_le_length within
  constructor
  · rintro ⟨written, online⟩
    rcases (operation_concat history r n _).mp written with earlier | ⟨rfl, latest⟩
    · obtain ⟨r', here, -⟩ := Option.map_eq_some_iff.mp earlier
      rw [before (Nat.le_of_lt (List.getElem?_eq_some_iff.mp here).1)] at online
      exact .inl ⟨earlier, online⟩
    · rw [before (Nat.le_refl _), List.take_length] at online
      exact .inr ⟨rfl, latest, online⟩
  · rintro (⟨written, online⟩ | ⟨rfl, latest, online⟩)
    · obtain ⟨r', here, -⟩ := Option.map_eq_some_iff.mp written
      refine ⟨(operation_concat history r n _).mpr (.inl written), ?_⟩
      rwa [before (Nat.le_of_lt (List.getElem?_eq_some_iff.mp here).1)]
    · refine ⟨(operation_concat history r _ _).mpr (.inr ⟨rfl, latest⟩), ?_⟩
      rwa [before (Nat.le_refl _), List.take_length]

/-- Accepted writes stand within the history. -/
theorem Accepts.lt_length {history : List (Request ι)} {n : Nat} {kind : Kind} {value : Float}
    (accepts : Accepts history n kind value) : n < history.length := by
  obtain ⟨r, here, -⟩ := Option.map_eq_some_iff.mp accepts.written
  exact (List.getElem?_eq_some_iff.mp here).1

/-- Nothing is accepted before anything was asked. -/
theorem not_accepts_nil (n : Nat) (kind : Kind) (value : Float) :
    ¬Accepts ([] : List (Request ι)) n kind value := by
  intro accepts
  exact absurd accepts.lt_length (Nat.not_lt_zero n)

section

variable {history : List (Request ι)} {r : Request ι} {kind : Kind}

/-- An accepted write is the last one of its kind, and nothing has happened since. -/
theorem lastAccepted_of_written {value : Float} (written : r.operation = .write kind value)
    (online : Online history) :
    LastAccepted (history ++ [r]) kind value ∧ AcceptedSince (history ++ [r]) kind := by
  have latest : Accepts (history ++ [r]) history.length kind value :=
    (accepts_concat ..).mpr (.inr ⟨rfl, written, online⟩)
  refine ⟨.inl ⟨history.length, latest, ?_⟩, history.length, value, latest, ?_⟩
  · intro m v accepts
    have within := accepts.lt_length
    rw [List.length_append, List.length_singleton] at within
    exact Nat.le_of_lt_succ within
  · intro m later
    have outside : (history ++ [r])[m]? = none := by
      apply List.getElem?_eq_none
      rw [List.length_append, List.length_singleton]
      exact later
    simp [outside]

/-- An operation that is no accepted write of a kind. -/
def Passes (history : List (Request ι)) (r : Request ι) (kind : Kind) : Prop :=
  ∀ value, r.operation = .write kind value → ¬Online history

/-- Such an operation adds no accepted write of the kind. -/
theorem Passes.accepts_concat_iff (passes : Passes history r kind) (n : Nat) (value : Float) :
    Accepts (history ++ [r]) n kind value ↔ Accepts history n kind value := by
  rw [accepts_concat, or_iff_left]
  rintro ⟨-, written, online⟩
  exact passes value written online

/-- The last accepted write stays the last one. -/
theorem Passes.lastAccepted_concat (passes : Passes history r kind) (value : Float) :
    LastAccepted (history ++ [r]) kind value ↔ LastAccepted history kind value := by
  simp only [LastAccepted, passes.accepts_concat_iff]

/-- Only going offline ends what was accepted since. -/
theorem Passes.acceptedSince_concat (passes : Passes history r kind) :
    AcceptedSince (history ++ [r]) kind ↔
      AcceptedSince history kind ∧ r.operation ≠ .setConnected false := by
  constructor
  · rintro ⟨n, v, accepts, still⟩
    rw [passes.accepts_concat_iff] at accepts
    refine ⟨⟨n, v, accepts, ?_⟩, ?_⟩
    · intro m later offline
      exact still m later ((operation_concat ..).mpr (.inl offline))
    · intro offline
      exact still history.length accepts.lt_length ((operation_concat ..).mpr (.inr ⟨rfl, offline⟩))
  · rintro ⟨⟨n, v, accepts, still⟩, stays⟩
    refine ⟨n, v, (passes.accepts_concat_iff n v).mpr accepts, ?_⟩
    intro m later offline
    rcases (operation_concat ..).mp offline with earlier | ⟨-, latest⟩
    · exact still m later earlier
    · exact stays latest

/-- What was accepted since the store last went offline was accepted while it was online. -/
theorem AcceptedSince.online (since : AcceptedSince history kind) : Online history := by
  induction history using List.reverseRecOn with
  | nil =>
    obtain ⟨n, v, accepts, -⟩ := since
    exact absurd accepts (not_accepts_nil n kind v)
  | append_singleton history r ih =>
    rw [online_concat]
    by_cases passes : Passes history r kind
    · rw [passes.acceptedSince_concat] at since
      cases asked : r.operation with
      | setConnected connected =>
        cases connected with
        | false => exact absurd asked since.2
        | true => exact .inl rfl
      | write | read | isConnected | snapshot => exact .inr ⟨rfl, ih since.1⟩
    · simp only [Passes, not_forall, not_not] at passes
      obtain ⟨value, written, online⟩ := passes
      rw [written]
      exact .inr ⟨rfl, online⟩

end

/-- A store shows what a history says. -/
structure Shows (s : Store) (history : List (Request ι)) : Prop where
  connected : s.connected = true ↔ Online history
  value : ∀ kind, LastAccepted history kind (s.read kind).value
  observed : ∀ kind, (s.read kind).observed = true ↔
    Online history ∧ AcceptedSince history kind

namespace Shows

variable {s : Store} {history : List (Request ι)}

theorem fresh : Store.fresh.Shows ([] : List (Request ι)) where
  connected := by simp [Store.fresh, Online]
  value kind := .inr ⟨fun n v => not_accepts_nil n kind v, by simp [Store.fresh, read]⟩
  observed kind := by simp [Store.fresh, read, Online]

/-- A write that finds the store online. -/
theorem write (shows : s.Shows history) {r : Request ι} {kind : Kind} {value : Float}
    (asked : r.operation = .write kind value) (online : Online history) :
    ({ s with readings := s.readings.set kind ⟨value, true⟩ } : Store).Shows (history ++ [r]) := by
  have still : Online (history ++ [r]) := by
    rw [online_concat, asked]
    exact .inr ⟨rfl, online⟩
  have passes {other : Kind} (different : other ≠ kind) : Passes history r other := by
    intro v written
    rw [asked, Operation.write.injEq] at written
    exact absurd written.1.symm different
  refine ⟨?_, ?_, ?_⟩
  · exact iff_of_true (shows.connected.mpr online) still
  · intro other
    by_cases same : other = kind
    · subst same
      simpa [read] using (lastAccepted_of_written asked online).1
    · simpa [read, PerKind.get_set_of_ne _ _ same, (passes same).lastAccepted_concat] using
        shows.value other
  · intro other
    by_cases same : other = kind
    · subst same
      simpa [read] using ⟨still, (lastAccepted_of_written asked online).2⟩
    · have kept := shows.observed other
      simp only [online, true_and] at kept
      rw [(passes same).acceptedSince_concat, asked]
      simpa [read, PerKind.get_set_of_ne _ _ same, still] using kept

/-- An operation that changes neither the store nor the connectivity, nor is an accepted write. -/
theorem unchanged (shows : s.Shows history) {r : Request ι}
    (keeps : r.operation.connectivity? = none) (passes : ∀ kind, Passes history r kind) :
    s.Shows (history ++ [r]) := by
  have same : Online (history ++ [r]) ↔ Online history := by simp [online_concat, keeps]
  have stays : r.operation ≠ .setConnected false := by
    intro offline
    simp [offline, Operation.connectivity?] at keeps
  refine ⟨shows.connected.trans same.symm, ?_, ?_⟩
  · intro kind
    exact ((passes kind).lastAccepted_concat _).mpr (shows.value kind)
  · intro kind
    rw [shows.observed, same, (passes kind).acceptedSince_concat]
    simp [stays]

/-- Going online or offline. -/
theorem setConnected (shows : s.Shows history) {r : Request ι} {connected : Bool}
    (asked : r.operation = .setConnected connected) :
    (s.setConnected connected).Shows (history ++ [r]) := by
  have passes (kind : Kind) : Passes history r kind := by
    intro v written
    simp [asked] at written
  have now : Online (history ++ [r]) ↔ connected = true := by
    simp [online_concat, asked, Operation.connectivity?]
  have values (kind : Kind) :
      ((s.setConnected connected).read kind).value = (s.read kind).value := by
    cases connected <;> simp [Store.setConnected, read]
  refine ⟨?_, ?_, ?_⟩
  · cases connected <;> simp [Store.setConnected, now]
  · intro kind
    rw [values, (passes kind).lastAccepted_concat]
    exact shows.value kind
  · intro kind
    rw [now, (passes kind).acceptedSince_concat, asked]
    cases connected with
    | false => simp [Store.setConnected, read]
    | true =>
      have shown := shows.observed kind
      rw [and_iff_right_of_imp AcceptedSince.online] at shown
      simpa [Store.setConnected, read] using shown

/-- One more operation, whichever it is. -/
theorem perform (shows : s.Shows history) (r : Request ι) :
    (s.perform r.operation).1.Shows (history ++ [r]) := by
  cases asked : r.operation with
  | write kind value =>
    by_cases online : Online history
    · simpa [Store.perform, Store.write, shows.connected.mpr online] using
        shows.write asked online
    · have refused : s.connected ≠ true := shows.connected.not.mpr online
      simpa [Store.perform, Store.write, refused] using
        shows.unchanged (by rw [asked]; rfl) fun _ _ _ => online
  | setConnected connected => exact shows.setConnected asked
  | read kind | isConnected | snapshot =>
    apply shows.unchanged
    · rw [asked]
      rfl
    · intro kind value written
      rw [asked] at written
      cases written

end Shows

/-- In every state a store shows what its history says. -/
theorem shows_after (history : List (Request ι)) : (after history).Shows history := by
  induction history using List.reverseRecOn with
  | nil => exact .fresh
  | append_singleton history r ih =>
    rw [after_concat]
    exact ih.perform r

/-- What a store holds after a history, and what it answers to whatever is asked next. -/
structure Lawful (history : List (Request ι)) : Prop where
  /-- The store is online exactly if the last change of its connectivity was to online. -/
  connected : (after history).connected = true ↔ Online history
  /-- A write is accepted while the store is online, and sets the reading of its kind alone. -/
  accepted : Online history → ∀ kind value, (after history).perform (.write kind value) =
    ({ after history with readings := (after history).readings.set kind ⟨value, true⟩ },
      .accepted true)
  /-- A write is refused while the store is offline, and changes nothing. -/
  refused : ¬Online history → ∀ kind value,
    (after history).perform (.write kind value) = (after history, .accepted false)
  /-- Reading a kind changes nothing and gives the value of the last accepted write, as observed if
  the store is online and a write was accepted since it last went offline. -/
  read : ∀ kind, ∃ r, (after history).perform (.read kind) = (after history, .reading r) ∧
    LastAccepted history kind r.value ∧
    (r.observed = true ↔ AcceptedSince history kind ∧ Online history)
  /-- Asking for the connectivity changes nothing and gives it. -/
  connectivity : (after history).perform .isConnected =
    (after history, .connectivity (after history).connected)
  /-- A snapshot changes nothing and gives the connectivity and the three readings. -/
  snapshot : (after history).perform .snapshot = (after history,
    .snapshot (after history).connected ⟨(after history).read .temperature,
      (after history).read .pressure, (after history).read .humidity⟩)
  /-- While the store is offline nothing counts as observed. -/
  offline : (after history).connected = false → ∀ kind,
    ((after history).read kind).observed = false
  /-- Going online leaves all readings as they are, so it restores no observation. -/
  reconnected : ∀ client kind,
    (after (history ++ [⟨client, .setConnected true⟩])).read kind = (after history).read kind

/-- **History law.** Whatever any number of clients asked of a fresh store, in whichever order, the
store holds and answers what its history says. -/
theorem lawful_after (history : List (Request ι)) : Lawful history := by
  have shows := shows_after history
  refine ⟨shows.connected, ?_, ?_, ?_, rfl, rfl, ?_, ?_⟩
  · intro online kind value
    simp [perform, write, shows.connected.mpr online]
  · intro offline kind value
    simp [perform, write, shows.connected.not.mpr offline]
  · intro kind
    exact ⟨_, rfl, shows.value kind, (shows.observed kind).trans and_comm⟩
  · intro offline kind
    by_contra observed
    rw [Bool.not_eq_false, shows.observed, ← shows.connected, offline] at observed
    exact absurd observed.1 Bool.false_ne_true
  · intro client kind
    rw [after_concat]
    rfl

end SensorLink.Store
