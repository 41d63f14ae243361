/-
# Which characteristics are located

A resolution looks at the first service with the target identifier, and there at the first
characteristic of every sensor kind.  This module says what it finds in terms of those first
occurrences alone.  Whatever leaves them in place leaves the handle map as it is: other
services, characteristics of no kind, repeated kinds, later services with the same
identifier, and other spellings of an identifier.  An identifier without a normal form is
that of something unknown, and no identifier makes a resolution fail.
-/

import Mathlib
import SensorLink.Proofs.Gatt.Location

namespace SensorLink

open Sensor (Kind)

theorem Sensor.Kind.uuid_injective : Function.Injective Kind.uuid := by
  have distinct : ∀ kind ∈ Kind.all, ∀ other ∈ Kind.all, kind.uuid = other.uuid → kind = other := by
    decide +kernel
  exact fun kind other => distinct kind kind.mem_all other other.mem_all

/-- A spelling denotes the kind whose identifier is its normal form. -/
theorem Sensor.Kind.ofUuid?_eq_some_iff {spelling : String} {kind : Kind} :
    Kind.ofUuid? spelling = some kind ↔ Bluetooth.normalForm? spelling = some kind.uuid := by
  rw [Kind.ofUuid?]
  cases Bluetooth.normalForm? spelling with
  | none => simp
  | some normal =>
    rw [Option.bind_some, Option.some_inj]
    constructor
    · intro found
      have same := List.find?_some found
      exact (beq_iff_eq.mp same).symm
    · rintro rfl
      have unique (other : Kind) : (other.uuid == kind.uuid) = (other == kind) := by
        rw [Bool.eq_iff_iff, beq_iff_eq, beq_iff_eq]
        exact Kind.uuid_injective.eq_iff
      simp only [unique]
      cases kind <;> rfl

namespace Gatt

theorem Characteristic.kind?_eq_some_iff {c : Characteristic} {kind : Kind} :
    c.kind? = some kind ↔ hasNormalForm c.uuid kind.uuid = true := by
  rw [Characteristic.kind?, Kind.ofUuid?_eq_some_iff, hasNormalForm, beq_iff_eq]

/-- An identifier without a normal form is that of something unknown. -/
theorem hasNormalForm_eq_false {uuid : Option Identifier}
    (malformed : Bluetooth.normalForm? (spellingOf uuid) = none) (target : String) :
    hasNormalForm uuid target = false := by
  rw [hasNormalForm, malformed]
  rfl

theorem eraseDups_concat {α : Type} [DecidableEq α] (as : List α) (a : α) :
    (as ++ [a]).eraseDups = if a ∈ as then as.eraseDups else as.eraseDups ++ [a] := by
  rw [List.eraseDups_append, List.cons_removeAll, List.nil_removeAll]
  split_ifs with here known known
  · simp_all
  · rfl
  · simp
  · simp_all

namespace HandleMap

/-- The kinds of a map, in the order of its entries. -/
def kinds (m : HandleMap) : List Kind :=
  m.entries.map Entry.kind

theorem find?_add (m : HandleMap) (e : Entry) (kind : Kind) :
    (m.add e).find? kind = (m.find? kind).or ([e].find? (·.kind == kind)) := by
  rw [find?, entries_add]
  split_ifs with known
  · by_cases same : e.kind = kind
    · subst same
      obtain ⟨kept, here⟩ := Option.isSome_iff_exists.mp known
      rw [here, Option.some_or, ← here, find?]
    · rw [List.find?_cons_of_neg (by simpa using same), List.find?_nil, Option.or_none, find?]
  · rw [List.find?_append, find?]

theorem find?_addAll (m : HandleMap) (es : List Entry) (kind : Kind) :
    (m.addAll es).find? kind = (m.find? kind).or (es.find? (·.kind == kind)) := by
  induction es generalizing m with
  | nil => exact (Option.or_none).symm
  | cons e rest ih =>
    rw [addAll, List.foldl_cons, ← addAll, ih, find?_add, Option.or_assoc, ← List.find?_append,
      List.singleton_append]

/-- A map keeps the first entry of every kind. -/
theorem find?_ofList (es : List Entry) (kind : Kind) :
    (ofList es).find? kind = es.find? (·.kind == kind) :=
  find?_addAll empty es kind

theorem kinds_add (m : HandleMap) (e : Entry) :
    (m.add e).kinds = if e.kind ∈ m.kinds then m.kinds else m.kinds ++ [e.kind] := by
  have known : (m.find? e.kind).isSome = true ↔ e.kind ∈ m.kinds := by
    rw [Option.isSome_iff_ne_none, ne_eq, find?_eq_none_iff, not_not, kinds]
  rw [kinds, entries_add]
  split_ifs with here there there
  · rfl
  · exact absurd (known.mp here) there
  · exact absurd (known.mpr there) here
  · exact List.map_append

/-- A map has the kinds that are added, in the order in which each is added first. -/
theorem kinds_ofList (es : List Entry) : (ofList es).kinds = (es.map Entry.kind).eraseDups := by
  induction es using List.reverseRecOn with
  | nil => rfl
  | append_singleton init e ih =>
    have added : ofList (init ++ [e]) = (ofList init).add e := List.foldl_concat ..
    rw [added, kinds_add, List.map_append, List.map_singleton, eraseDups_concat, ih]
    simp only [List.mem_eraseDups]

theorem find?_of_mem {m : HandleMap} {e : Entry} (mem : e ∈ m.entries) :
    m.find? e.kind = some e := by
  cases found : m.find? e.kind with
  | none => exact absurd (List.mem_map_of_mem mem) (find?_eq_none_iff.mp found)
  | some other =>
    rw [find?, List.find?_eq_some_iff_append] at found
    obtain ⟨same, before, after, split, -⟩ := found
    have here : other ∈ m.entries := split ▸ List.mem_append_right before List.mem_cons_self
    exact congrArg some (List.inj_on_of_nodup_map m.distinct here mem (beq_iff_eq.mp same))

/-- A map is known by its kinds and their entries. -/
theorem eq_of_find? {m m' : HandleMap} (order : m.kinds = m'.kinds)
    (same : ∀ kind, m.find? kind = m'.find? kind) : m = m' := by
  have entries (m : HandleMap) : m.entries = m.kinds.filterMap m.find? := by
    calc m.entries = m.entries.filterMap some := List.filterMap_some.symm
      _ = m.entries.filterMap (m.find? ∘ Entry.kind) :=
        List.filterMap_congr fun e mem => (find?_of_mem mem).symm
      _ = m.kinds.filterMap m.find? := List.filterMap_map.symm
  have together : m.entries = m'.entries := by
    rw [entries m, entries m', order, funext same]
  cases m
  cases m'
  cases together
  rfl

end HandleMap

/-- A characteristic as the entry of its kind, if it has one. -/
def Characteristic.entry? (c : Characteristic) : Option Entry :=
  c.kind?.map fun kind => ⟨kind, c.handle.value?, kind.uuid⟩

/-- The search ends early only at a sensor characteristic that does not say its handle. -/
theorem locate_snd_eq_none_iff {cs : List Characteristic} : (locate cs).2 = none ↔
    ∀ c ∈ cs, ∀ kind, c.kind? = some kind → c.handle ≠ .absent := by
  induction cs with
  | nil => exact ⟨fun _ => nofun, fun _ => rfl⟩
  | cons c rest ih =>
    rw [List.forall_mem_cons, ← ih, locate]
    cases c.kind? with
    | none => simp
    | some kind => cases c.handle <;> simp

/-- Unless it ends early, all characteristics with a kind are located. -/
theorem locate_eq_of_none {cs : List Characteristic} (whole : (locate cs).2 = none) :
    (locate cs).1 = cs.filterMap Characteristic.entry? := by
  induction cs with
  | nil => rfl
  | cons c rest ih =>
    unfold locate at whole ⊢
    cases known : c.kind? with
    | none =>
      rw [known] at whole
      rw [List.filterMap_cons_none (by rw [Characteristic.entry?, known]; rfl)]
      exact ih whole
    | some kind =>
      have seen : c.entry? = some ⟨kind, c.handle.value?, kind.uuid⟩ := by
        rw [Characteristic.entry?, known]
        rfl
      rw [known] at whole
      rw [List.filterMap_cons_some seen]
      cases shown : c.handle with
      | absent => simp [shown] at whole
      | empty | given =>
        simp only [shown] at whole ⊢
        rw [ih whole]

/-- The first entry of a kind is that of its first characteristic. -/
theorem find?_entries (cs : List Characteristic) (kind : Kind) :
    (cs.filterMap Characteristic.entry?).find? (·.kind == kind) =
      (cs.find? fun c => hasNormalForm c.uuid kind.uuid).map
        fun c => ⟨kind, c.handle.value?, kind.uuid⟩ := by
  have own (c : Characteristic) :
      c.entry?.any (·.kind == kind) = hasNormalForm c.uuid kind.uuid := by
    rw [Bool.eq_iff_iff, ← Characteristic.kind?_eq_some_iff, Characteristic.entry?]
    cases c.kind? <;> simp
  rw [List.find?_filterMap]
  simp only [own]
  cases found : cs.find? fun c => hasNormalForm c.uuid kind.uuid with
  | none => rfl
  | some c =>
    have matched := List.find?_some found
    have known := Characteristic.kind?_eq_some_iff.mpr matched
    rw [Option.bind_some, Characteristic.entry?, known, Option.map_some, Option.map_some]

/-- The kinds of the entries are those of the characteristics. -/
theorem map_kind_entries (cs : List Characteristic) :
    (cs.filterMap Characteristic.entry?).map Entry.kind = cs.filterMap Characteristic.kind? := by
  rw [List.map_filterMap]
  refine List.filterMap_congr fun c _ => ?_
  rw [Characteristic.entry?, Option.map_map]
  exact Option.map_id_apply

/-- What is located in a list of characteristics: for every kind the first one with its
identifier, which says its handle, in the order of these. -/
structure Locates (cs : List Characteristic) (m : HandleMap) : Prop where
  found : ∀ kind c, cs.find? (fun c => hasNormalForm c.uuid kind.uuid) = some c →
    c.handle ≠ .absent ∧ m.find? kind = some ⟨kind, c.handle.value?, kind.uuid⟩
  absent : ∀ kind, cs.find? (fun c => hasNormalForm c.uuid kind.uuid) = none → m.find? kind = none
  order : m.entries.map Entry.kind = (cs.filterMap Characteristic.kind?).eraseDups

/-- There is a map exactly if the search does not end early, and then it is that of the entries. -/
theorem mapOf_eq_ok_iff {cs : List Characteristic} {m : HandleMap} : mapOf cs = .ok m ↔
    (locate cs).2 = none ∧ .ofList (locate cs).1 = m := by
  unfold mapOf
  split
  · simp [*]
  · simp [*]

theorem locates_of_mapOf {cs : List Characteristic} {m : HandleMap} (mapped : mapOf cs = .ok m) :
    Locates cs m := by
  obtain ⟨whole, rfl⟩ := mapOf_eq_ok_iff.mp mapped
  have handles := locate_snd_eq_none_iff.mp whole
  rw [locate_eq_of_none whole]
  have lookup (kind : Kind) := (HandleMap.find?_ofList _ kind).trans (find?_entries cs kind)
  refine ⟨fun kind c first => ⟨?_, ?_⟩, fun kind none => ?_, ?_⟩
  · have matched := List.find?_some first
    exact handles c (List.mem_of_find?_eq_some first) kind
      (Characteristic.kind?_eq_some_iff.mpr matched)
  · rw [lookup, first, Option.map_some]
  · rw [lookup, none, Option.map_none]
  · rw [← map_kind_entries]
    exact HandleMap.kinds_ofList _

/-- Two lists have the same first characteristics, as far as a map shows them. -/
structure SameFirsts (cs cs' : List Characteristic) : Prop where
  handles : ∀ kind : Kind, (cs'.find? fun c => hasNormalForm c.uuid kind.uuid).map (·.handle) =
    (cs.find? fun c => hasNormalForm c.uuid kind.uuid).map (·.handle)
  order : (cs'.filterMap Characteristic.kind?).eraseDups =
    (cs.filterMap Characteristic.kind?).eraseDups

theorem SameFirsts.equivalence : Equivalence SameFirsts where
  refl _ := ⟨fun _ => rfl, rfl⟩
  symm same := ⟨fun kind => (same.handles kind).symm, same.order.symm⟩
  trans first second :=
    ⟨fun kind => (second.handles kind).trans (first.handles kind), second.order.trans first.order⟩

/-- The first characteristics are all that a map depends on. -/
theorem Locates.unique {cs cs' : List Characteristic} {m m' : HandleMap} (located : Locates cs m)
    (located' : Locates cs' m') (same : SameFirsts cs cs') : m' = m := by
  refine HandleMap.eq_of_find? (located'.order.trans (same.order.trans located.order.symm)) ?_
  intro kind
  have handles := same.handles kind
  cases first : cs.find? fun c => hasNormalForm c.uuid kind.uuid with
  | none =>
    rw [first, Option.map_none, Option.map_eq_none_iff] at handles
    rw [located.absent kind first, located'.absent kind handles]
  | some c =>
    rw [first, Option.map_some, Option.map_eq_some_iff] at handles
    obtain ⟨c', first', shown⟩ := handles
    rw [(located.found kind c first).2, (located'.found kind c' first').2, shown]

theorem eraseDups_insert {α : Type} [DecidableEq α] {as : List α} {a : α} (known : a ∈ as)
    (bs : List α) : (as ++ a :: bs).eraseDups = (as ++ bs).eraseDups := by
  rw [List.eraseDups_append, List.eraseDups_append, List.cons_removeAll]
  simp [known]

/-- A change among the characteristics of a service that leaves the first of every kind in place. -/
inductive Characteristic.Immaterial : List Characteristic → List Characteristic → Prop where
  /-- A characteristic of no sensor kind is added. -/
  | unknown {before after : List Characteristic} {c : Characteristic} :
    (∀ kind : Kind, hasNormalForm c.uuid kind.uuid = false) →
    Immaterial (before ++ after) (before ++ c :: after)
  /-- A characteristic is added behind another one of its kind. -/
  | repeated {before after : List Characteristic} {c first : Characteristic} {kind : Kind} :
    first ∈ before → hasNormalForm first.uuid kind.uuid = true →
    hasNormalForm c.uuid kind.uuid = true → Immaterial (before ++ after) (before ++ c :: after)
  /-- The identifier of a characteristic is spelled in another way. -/
  | respelled {before after : List Characteristic} {c : Characteristic} {uuid : Option Identifier} :
    Bluetooth.normalForm? (spellingOf uuid) = Bluetooth.normalForm? (spellingOf c.uuid) →
    Immaterial (before ++ c :: after) (before ++ { c with uuid } :: after)

theorem Characteristic.Immaterial.sameFirsts {cs cs' : List Characteristic}
    (change : Characteristic.Immaterial cs cs') : SameFirsts cs cs' := by
  cases change with
  | @unknown before after c alien =>
    have kindless : c.kind? = none := by
      rw [Option.eq_none_iff_forall_ne_some]
      intro kind known
      have matched := Characteristic.kind?_eq_some_iff.mp known
      exact Bool.false_ne_true ((alien kind).symm.trans matched)
    refine ⟨fun kind => ?_, ?_⟩
    · rw [List.find?_append, List.find?_append, List.find?_cons_of_neg (by simp [alien])]
    · rw [List.filterMap_append, List.filterMap_append, List.filterMap_cons_none kindless]
  | @repeated before after c first kind early matched again =>
    have known := Characteristic.kind?_eq_some_iff.mpr again
    refine ⟨fun other => ?_, ?_⟩
    · rw [List.find?_append, List.find?_append]
      by_cases same : other = kind
      · subst same
        have present : (before.find? fun c => hasNormalForm c.uuid other.uuid).isSome = true :=
          List.find?_isSome.mpr ⟨first, early, matched⟩
        obtain ⟨found, here⟩ := Option.isSome_iff_exists.mp present
        rw [here, Option.some_or, Option.some_or]
      · rw [List.find?_cons_of_neg]
        intro mistaken
        have mistaken := Characteristic.kind?_eq_some_iff.mpr mistaken
        exact same (Option.some.inj (mistaken.symm.trans known))
    · have present : kind ∈ before.filterMap Characteristic.kind? :=
        List.mem_filterMap.mpr ⟨first, early, Characteristic.kind?_eq_some_iff.mpr matched⟩
      rw [List.filterMap_append, List.filterMap_append, List.filterMap_cons_some known,
        eraseDups_insert present]
  | @respelled before after c uuid same =>
    have kind : ({ c with uuid } : Characteristic).kind? = c.kind? := by
      rw [Characteristic.kind?, Characteristic.kind?, Kind.ofUuid?, Kind.ofUuid?, same]
    refine ⟨fun kind => ?_, ?_⟩
    · rw [List.find?_append, List.find?_append, List.find?_cons, List.find?_cons]
      simp only [hasNormalForm, same]
      cases before.find? fun c => Bluetooth.normalForm? (spellingOf c.uuid) == some kind.uuid with
      | some first => rw [Option.some_or, Option.some_or]
      | none =>
        rw [Option.none_or, Option.none_or]
        cases Bluetooth.normalForm? (spellingOf c.uuid) == some kind.uuid <;> rfl
    · rw [List.filterMap_append, List.filterMap_append, List.filterMap_cons, List.filterMap_cons,
        kind]

/-- The characteristics of the first service with the target identifier. -/
def Tree.located (tree : Tree) (target : String) : List Characteristic :=
  (tree.find? fun s => hasNormalForm s.uuid target).elim [] (·.characteristics.items)

theorem locates_of_resolve {tree : Tree} {target : String} {m : HandleMap}
    (resolved : (resolve tree target).result = .ok m) :
    Locates (tree.located target) m := by
  unfold resolve at resolved
  unfold Tree.located
  cases found : tree.find? fun s => hasNormalForm s.uuid target with
  | none =>
    simp only [found] at resolved
    obtain rfl := Except.ok.inj resolved
    exact ⟨fun _ _ => nofun, fun _ _ => rfl, rfl⟩
  | some s =>
    simp only [found, resolveService] at resolved
    cases listed : s.characteristicList with
    | error f => simp [listed] at resolved
    | ok cs =>
      obtain rfl := Service.characteristicList_eq_items listed
      simp only [listed] at resolved
      exact locates_of_mapOf resolved

/-- A change of a tree that leaves the characteristics to locate in place. -/
inductive Tree.Immaterial (target : String) : Tree → Tree → Prop where
  /-- Services without the target identifier are added, removed or put elsewhere. -/
  | others {tree tree' : Tree} :
    (tree'.filter fun s => hasNormalForm s.uuid target) =
      (tree.filter fun s => hasNormalForm s.uuid target) → Immaterial target tree tree'
  /-- A service is added behind one with the target identifier. -/
  | later {before after : Tree} {s first : Service} :
    first ∈ before → hasNormalForm first.uuid target = true →
    Immaterial target (before ++ after) (before ++ s :: after)
  /-- The identifier of a service is spelled in another way. -/
  | respelled {before after : Tree} {s : Service} {uuid : Option Identifier} :
    Bluetooth.normalForm? (spellingOf uuid) = Bluetooth.normalForm? (spellingOf s.uuid) →
    Immaterial target (before ++ s :: after) (before ++ { s with uuid } :: after)
  /-- The characteristics of a service change immaterially. -/
  | within {before after : Tree} {s : Service} {cs cs' : List Characteristic} :
    s.characteristics = .given cs → Characteristic.Immaterial cs cs' →
    Immaterial target (before ++ s :: after)
      (before ++ { s with characteristics := .given cs' } :: after)

/-- A service may be replaced by one with the same identifier and first characteristics. -/
theorem sameFirsts_replace {target : String} {before after : Tree} {s s' : Service}
    (alike : hasNormalForm s'.uuid target = hasNormalForm s.uuid target)
    (same : SameFirsts s.characteristics.items s'.characteristics.items) :
    SameFirsts (Tree.located (before ++ s :: after) target)
      (Tree.located (before ++ s' :: after) target) := by
  unfold Tree.located
  rw [List.find?_append, List.find?_append, List.find?_cons, List.find?_cons, alike]
  cases before.find? fun s => hasNormalForm s.uuid target with
  | some first =>
    rw [Option.some_or, Option.some_or]
    exact SameFirsts.equivalence.refl _
  | none =>
    rw [Option.none_or, Option.none_or]
    cases hasNormalForm s.uuid target with
    | true => exact same
    | false => exact SameFirsts.equivalence.refl _

theorem Tree.Immaterial.sameFirsts {target : String} {tree tree' : Tree}
    (change : Tree.Immaterial target tree tree') :
    SameFirsts (tree.located target) (tree'.located target) := by
  cases change with
  | others same =>
    have first : (tree'.find? fun s => hasNormalForm s.uuid target) =
        tree.find? fun s => hasNormalForm s.uuid target := by
      rw [← List.head?_filter, ← List.head?_filter, same]
    rw [Tree.located, Tree.located, first]
    exact SameFirsts.equivalence.refl _
  | @later before after s first early matched =>
    have present : (before.find? fun s => hasNormalForm s.uuid target).isSome = true :=
      List.find?_isSome.mpr ⟨first, early, matched⟩
    obtain ⟨found, here⟩ := Option.isSome_iff_exists.mp present
    rw [Tree.located, Tree.located, List.find?_append, List.find?_append, here, Option.some_or,
      Option.some_or]
    exact SameFirsts.equivalence.refl _
  | respelled same =>
    refine sameFirsts_replace ?_ (SameFirsts.equivalence.refl _)
    rw [hasNormalForm, hasNormalForm, same]
  | within listed change =>
    refine sameFirsts_replace rfl ?_
    rw [listed]
    exact change.sameFirsts

theorem sameFirsts_of_changes {target : String} {tree tree' : Tree}
    (changes : Relation.EqvGen (Tree.Immaterial target) tree tree') :
    SameFirsts (tree.located target) (tree'.located target) := by
  induction changes with
  | rel _ _ change => exact change.sameFirsts
  | refl _ => exact SameFirsts.equivalence.refl _
  | symm _ _ _ ih => exact SameFirsts.equivalence.symm ih
  | trans _ _ _ _ _ first second => exact SameFirsts.equivalence.trans first second

/-- The service that is searched does not list null for its characteristics, and those of a sensor
kind say their handles. -/
def Tree.Locatable (tree : Tree) (target : String) : Prop :=
  ∀ s, (tree.find? fun s => hasNormalForm s.uuid target) = some s →
    s.characteristics.isNull = false ∧
    ∀ c ∈ s.characteristics.items, ∀ kind, c.kind? = some kind → c.handle ≠ .absent

/-- There is a map exactly if the characteristics to locate can be read. -/
theorem exists_resolve_iff {tree : Tree} {target : String} :
    (∃ m, (resolve tree target).result = .ok m) ↔ tree.Locatable target := by
  unfold resolve Tree.Locatable
  cases tree.find? fun s => hasNormalForm s.uuid target with
  | none => exact ⟨fun _ _ => nofun, fun _ => ⟨.empty, rfl⟩⟩
  | some s =>
    simp only [Option.some.injEq, forall_eq', resolveService, Service.characteristicList]
    cases s.characteristics with
    | empty => simp [Field.isNull]
    | absent => simp [Field.isNull, Field.items, Field.value?, mapOf, locate]
    | given cs =>
      simp only [mapOf_eq_ok_iff, exists_and_left, exists_eq', and_true, Field.isNull, true_and]
      exact locate_snd_eq_none_iff

/-- **What is located.**  Where a resolution comes to a map, it holds nothing if no service has the
target identifier; else it holds, for every sensor kind, the first characteristic with the
kind's identifier in the first such service, in the order of these characteristics.  No series of
immaterial changes makes a difference.  There is a map exactly if the characteristics to locate
say their handles, whatever the identifiers in the tree are: one without a normal form is no
target and of no kind. -/
theorem resolve_locates (tree : Tree) (target : String) :
    (∀ m, (resolve tree target).result = .ok m →
      ((∀ s ∈ tree, hasNormalForm s.uuid target = false) → m.entries = []) ∧
      (∀ before s after, tree = before ++ s :: after →
        (∀ other ∈ before, hasNormalForm other.uuid target = false) →
        hasNormalForm s.uuid target = true → Locates s.characteristics.items m) ∧
      ∀ tree' m', Relation.EqvGen (Tree.Immaterial target) tree tree' →
        (resolve tree' target).result = .ok m' → m' = m) ∧
    ((∃ m, (resolve tree target).result = .ok m) ↔ tree.Locatable target) ∧
    ∀ uuid, Bluetooth.normalForm? (spellingOf uuid) = none →
      ∀ name, hasNormalForm uuid name = false := by
  refine ⟨fun m resolved => ⟨fun absent => ?_, ?_, ?_⟩, exists_resolve_iff,
    fun _ => hasNormalForm_eq_false⟩
  · have none : (tree.find? fun s => hasNormalForm s.uuid target) = none := by
      simpa using absent
    have order := (locates_of_resolve resolved).order
    rw [Tree.located, none] at order
    exact List.map_eq_nil_iff.mp order
  · rintro before s after rfl earlier matched
    have none : (before.find? fun s => hasNormalForm s.uuid target) = none := by
      simpa using earlier
    have located := locates_of_resolve resolved
    rw [Tree.located, List.find?_append, none, Option.none_or, List.find?_cons, matched] at located
    exact located
  · intro tree' m' changes resolved'
    have same := sameFirsts_of_changes changes
    exact (locates_of_resolve resolved).unique (locates_of_resolve resolved') same

/-- A characteristic that shows its identifier and its handle, and nothing else. -/
def Characteristic.bare (uuid : String) (handle : Int) : Characteristic :=
  ⟨some (.text uuid), .given handle, .absent, .absent⟩

/-- A service whose identifier has no normal form. -/
def Service.nameless : Service := ⟨some (.text "sensing"), .absent, .empty⟩

/-- A sensing service with two humidities and a pressure whose handle is null; spellings without a
normal form, and a number in place of one, are among its characteristics. -/
def Service.sensing : Service :=
  ⟨some (.text "181A"), .given 8, .given [.bare "2a6f" 9,
    ⟨some (.integer 7), .absent, .absent, .absent⟩, .bare "0x2a6e" 10,
    .bare "00002A6F-0000-1000-8000-00805F9B34FB" 11, .bare "\x7b00002a6d\x7d" 12,
    ⟨some (.text "2A6D"), .empty, .absent, .absent⟩]⟩

/-- Another sensing service. -/
def Service.repeated : Service := ⟨some (.text "181a"), .given 20, .given [.bare "2a6e" 21]⟩

/-- Resolving a tree with two sensing services locates what is in the first one; without the
second one and in another order it comes to the same map. -/
theorem resolve_locates_sensing :
    ∃ m, (resolve [.nameless, .sensing, .repeated]).result = .ok m ∧
      Locates Service.sensing.characteristics.items m ∧
      (resolve [.sensing, .nameless]).result = .ok m := by
  have unknown : hasNormalForm Service.nameless.uuid Sensor.serviceUuid = false := by
    decide +kernel
  have known : hasNormalForm Service.sensing.uuid Sensor.serviceUuid = true := by decide +kernel
  have handles : ∀ c ∈ Service.sensing.characteristics.items, c.kind?.isSome = true →
      c.handle.shown?.isSome = true := by decide +kernel
  have locatable (tree : Tree)
      (first : (tree.find? fun s => hasNormalForm s.uuid Sensor.serviceUuid) = some .sensing) :
      tree.Locatable Sensor.serviceUuid := by
    intro s found
    obtain rfl := Option.some.inj (first.symm.trans found)
    refine ⟨rfl, fun c mem kind kindred absent => ?_⟩
    have shown := handles c mem (by rw [kindred]; rfl)
    rw [absent] at shown
    cases shown
  obtain ⟨found, located, -⟩ := resolve_locates [.nameless, .sensing, .repeated] Sensor.serviceUuid
  obtain ⟨-, located', -⟩ := resolve_locates [.sensing, .nameless] Sensor.serviceUuid
  obtain ⟨m, resolved⟩ := located.mpr (locatable _ (by simp [known, unknown]))
  obtain ⟨m', resolved'⟩ := located'.mpr (locatable _ (by simp [known]))
  obtain ⟨-, holds, stable⟩ := found m resolved
  have moved : Tree.Immaterial Sensor.serviceUuid [.nameless, .sensing, .repeated]
      [.sensing, .nameless, .repeated] := .others (by simp [known, unknown])
  have behind : Tree.Immaterial Sensor.serviceUuid ([.sensing, .nameless] ++ [])
      ([.sensing, .nameless] ++ .repeated :: []) := .later List.mem_cons_self known
  obtain rfl : m' = m :=
    stable _ m' (.trans _ _ _ (.rel _ _ moved) (.symm _ _ (.rel _ _ behind))) resolved'
  exact ⟨m', resolved, holds [.nameless] .sensing [.repeated] rfl (by simpa using unknown) known,
    resolved'⟩

/-- Of the two humidities the first is kept, and of the pressure its null handle; spellings without
a normal form, and a number in place of one, are passed over. -/
example :
    ((resolve [.nameless, .sensing, .repeated]).result.toOption.map fun m =>
      m.entries.map fun e => (e.kind, e.handle)) =
        some [(.humidity, some 9), (.pressure, none)] := by
  decide +kernel

end Gatt
end SensorLink
