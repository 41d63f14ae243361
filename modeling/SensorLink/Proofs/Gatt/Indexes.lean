/-
# The two ways into a handle map

A handle map is asked by kind and by handle.  Its answers are those of two tables, one
for each way in, that are filled and emptied together: what is refused by its kind
changes neither.  Only the kind is checked, though.  An entry of a new kind is taken in
also when its handle is in use, and from then on that handle leads to the new entry
alone.  So every kind leads to its entry, every entry that a handle leads to is one of
the map, and the handles lead back to all entries exactly as long as no handle was taken
in twice since the map was last emptied.
-/

import SensorLink.Proofs.Gatt.Selection

namespace SensorLink.Gatt.HandleMap

open Sensor (Kind)

/-- What is done to a map. -/
inductive Operation where
  | add (e : Entry)
  | clear

/-- The map after an operation. -/
def perform (m : HandleMap) : Operation → HandleMap
  | .add e => m.add e
  | .clear => empty

/-- The map after a sequence of operations. -/
def after (ops : List Operation) : HandleMap :=
  ops.foldl perform empty

theorem after_concat (ops : List Operation) (op : Operation) :
    after (ops ++ [op]) = (after ops).perform op :=
  List.foldl_concat ..

/-- Two tables, one by kind and one by handle; the last entry of a key counts. -/
structure Tables where
  byKind : Kind → Option Entry
  byHandle : Option Int → Option Entry

namespace Tables

/-- Tables without an entry. -/
def empty : Tables where
  byKind _ := none
  byHandle _ := none

/-- The tables after an operation. -/
def perform (t : Tables) : Operation → Tables
  | .add e =>
    if (t.byKind e.kind).isSome then t
    else
      { byKind := Function.update t.byKind e.kind (some e)
        byHandle := Function.update t.byHandle e.handle (some e) }
  | .clear => empty

end Tables

/-- What a map answers by kind and by handle. -/
def tables (m : HandleMap) : Tables where
  byKind := m.find?
  byHandle := m.byHandle

theorem add_of_known {m : HandleMap} {e : Entry} (known : (m.find? e.kind).isSome = true) :
    m.add e = m := by
  unfold add
  split
  · rfl
  · simp_all

theorem entries_add_of_new {m : HandleMap} {e : Entry} (new : m.find? e.kind = none) :
    (m.add e).entries = m.entries ++ [e] := by
  rw [entries_add, new, if_neg (by simp)]

/-- A new entry is the one that its handle leads to; all other handles lead where they led. -/
theorem byHandle_add_of_new {m : HandleMap} {e : Entry} (new : m.find? e.kind = none) :
    (m.add e).byHandle = Function.update m.byHandle e.handle (some e) := by
  funext handle
  rw [byHandle, entries_add_of_new new, List.reverse_concat]
  by_cases same : handle = e.handle
  · rw [same, Function.update_self, List.find?_cons_of_pos (by simp)]
  · rw [Function.update_of_ne same, List.find?_cons_of_neg (by simpa using Ne.symm same)]
    rfl

theorem find?_add_of_new {m : HandleMap} {e : Entry} (new : m.find? e.kind = none) :
    (m.add e).find? = Function.update m.find? e.kind (some e) := by
  funext kind
  rw [find?_add]
  by_cases same : kind = e.kind
  · rw [same, new, Function.update_self, Option.none_or, List.find?_cons_of_pos (by simp)]
  · rw [Function.update_of_ne same, List.find?_cons_of_neg (by simpa using Ne.symm same),
      List.find?_nil, Option.or_none]

/-- An operation does to the answers what it does to the tables. -/
theorem tables_perform (m : HandleMap) (op : Operation) :
    (m.perform op).tables = m.tables.perform op := by
  cases op with
  | clear => rfl
  | add e =>
    cases known : m.find? e.kind with
    | some kept => simp [perform, Tables.perform, tables, known, add_of_known]
    | none =>
      simp [perform, Tables.perform, tables, known, find?_add_of_new, byHandle_add_of_new]

theorem tables_after (ops : List Operation) :
    (after ops).tables = ops.foldl Tables.perform .empty := by
  induction ops using List.reverseRecOn with
  | nil => rfl
  | append_singleton ops op ih => rw [after_concat, tables_perform, ih, List.foldl_concat]

/-- A handle leads to the last entry that has it. -/
theorem byHandle_eq_some_iff {m : HandleMap} {handle : Option Int} {e : Entry} :
    m.byHandle handle = some e ↔ e.handle = handle ∧ ∃ earlier later,
      m.entries = earlier ++ e :: later ∧ ∀ other ∈ later, other.handle ≠ handle := by
  rw [byHandle, List.find?_eq_some_iff_append, beq_iff_eq]
  refine and_congr_right fun _ => ?_
  constructor
  · rintro ⟨later, earlier, split, others⟩
    refine ⟨earlier.reverse, later.reverse, ?_, fun other mem => ?_⟩
    · rw [← List.reverse_reverse m.entries, split]
      simp
    · simpa using others other (List.mem_reverse.mp mem)
  · rintro ⟨earlier, later, split, others⟩
    refine ⟨later.reverse, earlier.reverse, by simp [split], fun other mem => ?_⟩
    simpa using others other (List.mem_reverse.mp mem)

/-- A map has one entry for a kind that it contains, and none for any other. -/
theorem countP_kind (m : HandleMap) (kind : Kind) :
    m.entries.countP (·.kind == kind) = if m.contains kind then 1 else 0 := by
  have counted : m.entries.countP (·.kind == kind) = m.kinds.count kind := by
    rw [kinds, List.count, List.countP_map]
    rfl
  have listed : m.contains kind = true ↔ kind ∈ m.kinds := by
    rw [contains, Option.isSome_iff_ne_none, ne_eq, find?_eq_none_iff, not_not, kinds]
  have once : m.kinds.count kind = if kind ∈ m.kinds then 1 else 0 := List.Nodup.count m.distinct
  rw [counted, once]
  simp only [listed]

/-- Every entry is found by its handle. -/
def Mutual (m : HandleMap) : Prop :=
  ∀ e ∈ m.entries, m.byHandle e.handle = some e

/-- An entry of a new kind has a handle that is in use. -/
def Clashes (m : HandleMap) (e : Entry) : Prop :=
  m.find? e.kind = none ∧ ∃ other ∈ m.entries, other.handle = e.handle

/-- Since the map was last emptied, an entry was taken in with a handle that was in use. -/
def Clashed (ops : List Operation) : Prop :=
  ∃ earlier e later, ops = earlier ++ .add e :: later ∧ Operation.clear ∉ later ∧
    (after earlier).Clashes e

/-- A new entry spoils the way back to those that had its handle, and to no other. -/
theorem mutual_add_iff {m : HandleMap} {e : Entry} (new : m.find? e.kind = none) :
    (m.add e).Mutual ↔ m.Mutual ∧ ¬m.Clashes e := by
  have own (other : Entry) (mem : other ∈ m.entries) : other ≠ e := by
    rintro rfl
    exact find?_eq_none_iff.mp new (List.mem_map_of_mem mem)
  unfold Mutual
  rw [entries_add_of_new new, byHandle_add_of_new new]
  simp only [List.forall_mem_append, List.forall_mem_singleton, Function.update_self, and_true]
  constructor
  · intro found
    have apart (other : Entry) (mem : other ∈ m.entries) : other.handle ≠ e.handle := by
      intro same
      have here := found other mem
      rw [same, Function.update_self] at here
      exact own other mem (Option.some.inj here).symm
    refine ⟨fun other mem => ?_, fun ⟨_, other, mem, same⟩ => apart other mem same⟩
    rw [← found other mem, Function.update_of_ne (apart other mem)]
  · rintro ⟨found, clear⟩ other mem
    have apart : other.handle ≠ e.handle := fun same => clear ⟨new, other, mem, same⟩
    rw [Function.update_of_ne apart]
    exact found other mem

theorem clashed_concat_add (ops : List Operation) (e : Entry) :
    Clashed (ops ++ [.add e]) ↔ Clashed ops ∨ (after ops).Clashes e := by
  constructor
  · rintro ⟨earlier, first, later, split, kept, clashes⟩
    rcases List.eq_nil_or_concat later with rfl | ⟨init, last, rfl⟩
    · obtain ⟨rfl, same⟩ := List.append_inj' split rfl
      cases same
      exact .inr clashes
    · rw [List.concat_eq_append] at split kept
      rw [← List.cons_append, ← List.append_assoc] at split
      obtain ⟨rfl, -⟩ := List.append_inj' split rfl
      exact .inl ⟨earlier, first, init, rfl, fun mem => kept (List.mem_append_left _ mem), clashes⟩
  · rintro (⟨earlier, first, later, rfl, kept, clashes⟩ | clashes)
    · refine ⟨earlier, first, later ++ [.add e], by simp, ?_, clashes⟩
      simpa using kept
    · exact ⟨ops, e, [], rfl, List.not_mem_nil, clashes⟩

theorem not_clashed_concat_clear (ops : List Operation) : ¬Clashed (ops ++ [.clear]) := by
  rintro ⟨earlier, e, later, split, kept, -⟩
  rcases List.eq_nil_or_concat later with rfl | ⟨init, last, rfl⟩
  · cases (List.append_inj' split rfl).2
  · rw [List.concat_eq_append, ← List.cons_append, ← List.append_assoc] at split
    cases (List.append_inj' split rfl).2
    simp at kept

/-- All handles lead back as long as none was taken in twice. -/
theorem mutual_after_iff (ops : List Operation) : (after ops).Mutual ↔ ¬Clashed ops := by
  induction ops using List.reverseRecOn with
  | nil =>
    have nothing : ¬Clashed [] := fun ⟨_, _, _, split, _⟩ => by simp at split
    exact iff_of_true (fun _ mem => nomatch mem) nothing
  | append_singleton ops op ih =>
    rw [after_concat]
    cases op with
    | clear => exact iff_of_true (fun _ mem => nomatch mem) (not_clashed_concat_clear ops)
    | add e =>
      rw [clashed_concat_add, not_or, ← ih, perform]
      cases known : (after ops).find? e.kind with
      | none => exact mutual_add_iff known
      | some kept =>
        have old : ¬(after ops).Clashes e := fun ⟨new, _⟩ => by simp [known] at new
        rw [add_of_known (by simp [known])]
        exact (and_iff_left old).symm

/-- What a map says of itself, asked by kind and by handle, after a sequence of operations. -/
structure Answers (ops : List Operation) : Prop where
  /-- It answers as two tables do that are filled and emptied together. -/
  tables : (after ops).tables = ops.foldl Tables.perform .empty
  /-- One entry is listed for every kind that is present. -/
  single : ∀ kind, (after ops).entries.countP (·.kind == kind) =
    if (after ops).contains kind then 1 else 0
  /-- Every listed entry is found by its kind. -/
  byKind : ∀ e ∈ (after ops).entries, (after ops).handleFor e.kind = e.handle
  /-- A handle leads to a listed entry, the last of those that have it. -/
  byHandle : ∀ handle e, (after ops).byHandle handle = some e ↔ e.handle = handle ∧
    ∃ earlier later, (after ops).entries = earlier ++ e :: later ∧
      ∀ other ∈ later, other.handle ≠ handle
  /-- An entry of a kind that is present changes nothing. -/
  refused : ∀ e, (after ops).contains e.kind = true → (after ops).add e = after ops
  /-- Every listed entry is found by its handle, exactly if since the map was last emptied no
  handle in use was taken in once more. -/
  back : (∀ e ∈ (after ops).entries, (after ops).byHandle e.handle = some e) ↔ ¬Clashed ops

/-- **The two ways into a handle map.** Whatever is added to a map, and whenever it is emptied, it
answers by kind for all of its entries, and by handle for those whose handle no later one has. -/
theorem answers_after (ops : List Operation) : Answers ops where
  tables := tables_after ops
  single := countP_kind (after ops)
  byKind e mem := by rw [handleFor, find?_of_mem mem, Option.bind_some]
  byHandle _ _ := byHandle_eq_some_iff
  refused _ known := add_of_known known
  back := mutual_after_iff ops

/-- Two characteristics of different kinds with one handle. -/
def shared : List Operation :=
  [.add ⟨.temperature, some 5, Kind.temperature.uuid⟩,
    .add ⟨.humidity, some 5, Kind.humidity.uuid⟩]

/-- A shared handle leads to the later entry; the earlier one is still listed and found by its
kind. -/
theorem not_mutual_shared : ∃ e ∈ (after shared).entries,
    (after shared).handleFor e.kind = e.handle ∧ (after shared).byHandle e.handle ≠ some e := by
  refine ⟨⟨.temperature, some 5, Kind.temperature.uuid⟩, ?_, ?_, ?_⟩ <;> decide +kernel

end SensorLink.Gatt.HandleMap
