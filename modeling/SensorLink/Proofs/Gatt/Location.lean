/-
# Entries and their characteristics

A resolution keeps the kind and the handle of some characteristics of a tree, and
whoever is handed a handle later finds its characteristic by searching the tree.
If no two characteristics share the handle, the search leads back: the entry of a
handle map has the kind of the characteristic that its handle finds.
-/

import SensorLink.Proofs.Gatt.Completeness

namespace SensorLink.Gatt

/-- All characteristics of a tree, in the order of discovery. -/
def Tree.characteristics (tree : Tree) : List Characteristic :=
  tree.flatMap (·.characteristics.items)

/-- The handles of a tree's characteristics, null handles among them. -/
def Tree.handles (tree : Tree) : List (Option Int) :=
  tree.characteristics.filterMap (·.handle.shown?)

/-- The characteristic with a handle; of several, the first. -/
def Tree.at? (tree : Tree) (handle : Option Int) : Option Characteristic :=
  tree.characteristics.find? (·.handle.shown? == some handle)

theorem HandleMap.entries_add (m : HandleMap) (e : Entry) :
    (m.add e).entries = if (m.find? e.kind).isSome then m.entries else m.entries ++ [e] := by
  unfold HandleMap.add
  split
  · simp [*]
  · simp [*]

/-- A map holds nothing that was not added. -/
theorem HandleMap.mem_entries_addAll {m : HandleMap} {es : List Entry} {e : Entry}
    (mem : e ∈ (m.addAll es).entries) : e ∈ m.entries ∨ e ∈ es := by
  induction es generalizing m with
  | nil => exact .inl mem
  | cons first rest ih =>
    rcases ih mem with early | later
    · rw [HandleMap.entries_add] at early
      split at early
      · exact .inl early
      · rcases List.mem_append.mp early with here | added
        · exact .inl here
        · exact .inr (List.mem_cons.mpr (.inl (List.mem_singleton.mp added)))
    · exact .inr (List.mem_cons_of_mem first later)

/-- A field that is not absent shows its value, or that it has none. -/
theorem Field.shown?_of_ne_absent {α : Type} {f : Field α} (present : f ≠ .absent) :
    f.shown? = some f.value? := by
  cases f with
  | absent => exact absurd rfl present
  | empty | given => rfl

/-- Every entry that is located is that of a characteristic. -/
theorem exists_of_mem_locate {cs : List Characteristic} {e : Entry} (mem : e ∈ (locate cs).1) :
    ∃ c ∈ cs, c.kind? = some e.kind ∧ c.handle.shown? = some e.handle := by
  induction cs with
  | nil => cases mem
  | cons c rest ih =>
    have later (mem : e ∈ (locate rest).1) : ∃ c' ∈ c :: rest,
        c'.kind? = some e.kind ∧ c'.handle.shown? = some e.handle := by
      obtain ⟨c', here, seen⟩ := ih mem
      exact ⟨c', List.mem_cons_of_mem c here, seen⟩
    unfold locate at mem
    split at mem
    · exact later mem
    · split at mem
      · cases mem
      · rename_i present
        rcases List.mem_cons.mp mem with rfl | mem
        · exact ⟨c, List.mem_cons_self, ‹_›, Field.shown?_of_ne_absent present⟩
        · exact later mem

/-- Every entry is that of a characteristic. -/
theorem exists_of_mapOf {cs : List Characteristic} {m : HandleMap} (mapped : mapOf cs = .ok m)
    {e : Entry} (mem : e ∈ m.entries) :
    ∃ c ∈ cs, c.kind? = some e.kind ∧ c.handle.shown? = some e.handle := by
  unfold mapOf at mapped
  split at mapped
  · cases mapped
  · rename_i entries located
    cases mapped
    apply exists_of_mem_locate
    rw [located]
    exact (HandleMap.mem_entries_addAll mem).resolve_left List.not_mem_nil

/-- Every entry of a resolution is that of a characteristic of the tree. -/
theorem exists_of_resolve {tree : Tree} {target : String} {m : HandleMap}
    (resolved : (resolve tree target).result = .ok m) {e : Entry} (mem : e ∈ m.entries) :
    ∃ c ∈ tree.characteristics, c.kind? = some e.kind ∧ c.handle.shown? = some e.handle := by
  unfold resolve at resolved
  split at resolved
  · rename_i s found
    unfold resolveService Service.characteristicList at resolved
    cases listed : s.characteristics with
    | empty => simp [listed] at resolved
    | absent =>
      simp only [listed] at resolved
      obtain ⟨c, here, -⟩ := exists_of_mapOf resolved mem
      cases here
    | given cs =>
      simp only [listed] at resolved
      obtain ⟨c, here, seen⟩ := exists_of_mapOf resolved mem
      refine ⟨c, List.mem_flatMap.mpr ⟨s, List.mem_of_find?_eq_some found, ?_⟩, seen⟩
      rwa [listed]
  · cases resolved
    cases mem

/-- A characteristic whose handle no other has is found by it. -/
theorem find?_eq_some_of_count {cs : List Characteristic} {handle : Option Int}
    (alone : (cs.filterMap (·.handle.shown?)).count handle ≤ 1) {c : Characteristic}
    (mem : c ∈ cs) (own : c.handle.shown? = some handle) :
    cs.find? (·.handle.shown? == some handle) = some c := by
  induction cs with
  | nil => cases mem
  | cons first rest ih =>
    by_cases same : first.handle.shown? = some handle
    · rw [List.find?_cons_of_pos (by simp [same])]
      rcases List.mem_cons.mp mem with rfl | later
      · rfl
      · have again : handle ∈ rest.filterMap (·.handle.shown?) :=
          List.mem_filterMap.mpr ⟨c, later, own⟩
        have before := List.count_pos_iff.mpr again
        rw [List.filterMap_cons, same, List.count_cons_self] at alone
        omega
    · rw [List.find?_cons_of_neg (by simpa using same)]
      apply ih
      · have fewer := (List.sublist_cons_self first rest).filterMap (·.handle.shown?)
        exact Nat.le_trans (fewer.count_le handle) alone
      · exact (List.mem_cons.mp mem).resolve_left fun first => same (first ▸ own)

/-- The handle of an entry that no two characteristics share finds one of the entry's kind. -/
theorem kind?_at?_of_resolve {tree : Tree} {target : String} {m : HandleMap}
    (resolved : (resolve tree target).result = .ok m) {e : Entry} (mem : e ∈ m.entries)
    (alone : tree.handles.count e.handle ≤ 1) :
    ∃ c, tree.at? e.handle = some c ∧ c.kind? = some e.kind := by
  obtain ⟨c, here, kind, own⟩ := exists_of_resolve resolved mem
  exact ⟨c, find?_eq_some_of_count alone here own, kind⟩

/-- A characteristic without an identifier is of no kind. -/
theorem uuid_of_kind? {c : Characteristic} {kind : Sensor.Kind} (known : c.kind? = some kind) :
    ∃ u, c.uuid = some u ∧ Sensor.Kind.ofUuid? u.spelling = some kind := by
  unfold Characteristic.kind? at known
  cases shown : c.uuid with
  | some u =>
    rw [shown] at known
    exact ⟨u, rfl, known⟩
  | none =>
    have unnamed : Sensor.Kind.ofUuid? "" = none := by decide +kernel
    rw [shown] at known
    exact absurd (known.symm.trans unnamed) nofun

/-- Every service of the tree lists its characteristics, and all these say their handles. -/
def Tree.Addressed (tree : Tree) : Prop :=
  ∀ s ∈ tree, s.characteristics.isNull = false ∧
    ∀ c ∈ s.characteristics.items, c.handle.shown?.isSome = true

theorem searchHandle_eq (handle : Option Int) {cs : List Characteristic}
    (handles : ∀ c ∈ cs, c.handle.shown?.isSome = true) :
    searchHandle handle cs = .ok (cs.find? (·.handle.shown? == some handle)) := by
  induction cs with
  | nil => rfl
  | cons c rest ih =>
    have later := ih fun other mem => handles other (List.mem_cons_of_mem c mem)
    have whole := handles c List.mem_cons_self
    unfold searchHandle
    cases shown : c.handle.shown? with
    | none => simp [shown] at whole
    | some other =>
      by_cases same : other = handle
      · simp [shown, same]
      · simp [shown, same, later]

/-- Nothing ends the search of such a tree before the handle is found. -/
theorem Tree.Addressed.findHandle_eq {tree : Tree} (addressed : tree.Addressed)
    (handle : Option Int) : tree.findHandle handle = .ok (tree.at? handle) := by
  induction tree with
  | nil => rfl
  | cons s rest ih =>
    obtain ⟨listed, handles⟩ := addressed s List.mem_cons_self
    have later := ih fun other mem => addressed other (List.mem_cons_of_mem s mem)
    have here : s.characteristicList.bind (searchHandle handle) =
        .ok (s.characteristics.items.find? (·.handle.shown? == some handle)) := by
      unfold Service.characteristicList
      cases known : s.characteristics with
      | absent => rfl
      | empty => simp [known, Field.isNull] at listed
      | given cs =>
        rw [known] at handles
        exact searchHandle_eq handle handles
    unfold Tree.findHandle
    unfold Tree.at? Tree.characteristics at later ⊢
    rw [here, List.flatMap_cons, List.find?_append]
    cases s.characteristics.items.find? (·.handle.shown? == some handle) with
    | none => exact later
    | some c => rfl

end SensorLink.Gatt
