/-
# Complete trees

A listing shows the identifier of every object in a tree and nearly every handle,
so it succeeds exactly for trees that leave none of these out.  Finding the sensor
characteristics asks for much less: it skips the services it does not look for, the
characteristics of no sensor kind, and all descriptors, and of the handles it only
takes note.  A tree may therefore be resolved that cannot be listed.
-/

import SensorLink.Gatt.Listing
import SensorLink.Gatt.Resolution

namespace SensorLink

/-- A failure for want of a part of a description. -/
def Failure.LacksPart (f : Failure) : Prop :=
  f.kind = .attribute ∨ f.kind = .type

namespace Gatt

/-- Whether a field is there without a value. -/
def Field.isNull {α : Type} : Field α → Bool
  | empty => true
  | absent | given _ => false

/-- A descriptor with a handle and an identifier. -/
def Descriptor.Complete (d : Descriptor) : Prop :=
  d.handle.value?.isSome = true ∧ d.uuid.isSome = true

/-- A characteristic with a handle and an identifier, and complete descriptors. -/
def Characteristic.Complete (c : Characteristic) : Prop :=
  (c.handle.value?.isSome = true ∧ c.uuid.isSome = true) ∧ ∀ d ∈ c.descriptors.items, d.Complete

/-- A service with an identifier and complete characteristics, and with neither a null handle nor
null characteristics. -/
def Service.Complete (s : Service) : Prop :=
  (s.handle.isNull = false ∧ s.uuid.isSome = true) ∧ s.characteristics.isNull = false ∧
    ∀ c ∈ s.characteristics.items, c.Complete

/-- Every object of the tree shows all that a listing needs. -/
def Tree.Complete (tree : Tree) : Prop :=
  ∀ s ∈ tree, s.Complete

instance (d : Descriptor) : Decidable d.Complete :=
  inferInstanceAs (Decidable (_ ∧ _))

instance (c : Characteristic) : Decidable c.Complete :=
  inferInstanceAs (Decidable (_ ∧ ∀ d ∈ c.descriptors.items, d.Complete))

instance (s : Service) : Decidable s.Complete :=
  inferInstanceAs (Decidable (_ ∧ _ ∧ ∀ c ∈ s.characteristics.items, c.Complete))

instance (tree : Tree) : Decidable tree.Complete :=
  inferInstanceAs (Decidable (∀ s ∈ tree, s.Complete))

/-- A reading of a description succeeds exactly if the description is good, and otherwise fails
for want of a part. -/
inductive Demands {α : Type} (good : Prop) : Except Failure α → Prop where
  | met (a : α) : good → Demands good (.ok a)
  | unmet (f : Failure) : f.LacksPart → ¬good → Demands good (.error f)

namespace Demands

variable {α β : Type} {good better : Prop}

theorem congr {x : Except Failure α} (demands : Demands good x) (same : good ↔ better) :
    Demands better x := by
  cases demands with
  | met a h => exact .met a (same.mp h)
  | unmet f lacks h => exact .unmet f lacks fun holds => h (same.mpr holds)

/-- One reading after another. -/
theorem bind {x : Except Failure α} {next : α → Except Failure β} (first : Demands good x)
    (second : ∀ a, x = .ok a → Demands better (next a)) : Demands (good ∧ better) (x >>= next) := by
  cases first with
  | met a h => exact (second a rfl).congr (and_iff_right h).symm
  | unmet f lacks h => exact .unmet f lacks fun both => h both.1

/-- Nothing fails any more after a reading. -/
theorem map {x : Except Failure α} (first : Demands good x) (f : α → β) :
    Demands good (x >>= fun a => pure (f a)) := by
  cases first with
  | met a h => exact .met (f a) h
  | unmet g lacks h => exact .unmet g lacks h

/-- The same reading of every item of a list. -/
theorem mapM {f : α → Except Failure β} {fine : α → Prop} (each : ∀ a, Demands (fine a) (f a))
    (as : List α) : Demands (∀ a ∈ as, fine a) (as.mapM f) := by
  induction as with
  | nil => exact .met [] nofun
  | cons a rest ih =>
    rw [List.mapM_cons]
    have both := (each a).bind fun b _ => ih.map (b :: ·)
    exact both.congr List.forall_mem_cons.symm

end Demands

theorem requireUuid_demands (uuid : Option Identifier) :
    Demands (uuid.isSome = true) (requireUuid uuid) := by
  cases uuid with
  | none => exact .unmet _ (.inl rfl) nofun
  | some u => exact .met u rfl

theorem requireHandle_demands (handle : Field Int) :
    Demands (handle.value?.isSome = true) (requireHandle handle) := by
  cases handle with
  | absent => exact .unmet _ (.inl rfl) nofun
  | empty => exact .unmet _ (.inr rfl) nofun
  | given h => exact .met h rfl

theorem Service.shownHandle_demands (s : Service) :
    Demands (s.handle.isNull = false) s.shownHandle := by
  unfold Service.shownHandle
  cases s.handle with
  | absent => exact .met 0 rfl
  | empty => exact .unmet _ (.inr rfl) nofun
  | given h => exact .met h rfl

theorem Service.characteristicList_demands (s : Service) :
    Demands (s.characteristics.isNull = false) s.characteristicList := by
  unfold Service.characteristicList
  cases s.characteristics with
  | absent => exact .met [] rfl
  | empty => exact .unmet _ (.inr rfl) nofun
  | given cs => exact .met cs rfl

/-- The characteristics that are listed are the items of the field. -/
theorem Service.characteristicList_eq_items {s : Service} {cs : List Characteristic}
    (listed : s.characteristicList = .ok cs) : cs = s.characteristics.items := by
  unfold Service.characteristicList at listed
  cases known : s.characteristics with
  | absent =>
    rw [known] at listed
    exact (Except.ok.inj listed).symm
  | empty =>
    rw [known] at listed
    cases listed
  | given items =>
    rw [known] at listed
    exact (Except.ok.inj listed).symm

theorem objectRow_demands {handle : Except Failure Int} {shown : Prop}
    (handles : Demands shown handle) (type : String) (uuid : Option Identifier)
    (properties : String) :
    Demands (shown ∧ uuid.isSome = true) (objectRow type handle uuid properties) :=
  handles.bind fun _ _ => (requireUuid_demands uuid).map _

theorem Descriptor.row_demands (d : Descriptor) : Demands d.Complete d.row :=
  objectRow_demands (requireHandle_demands d.handle) "descr" d.uuid ""

theorem Characteristic.rows_demands (c : Characteristic) : Demands c.Complete c.rows :=
  (objectRow_demands (requireHandle_demands c.handle) "charac" c.uuid _).bind fun _ _ =>
    (Demands.mapM Descriptor.row_demands c.descriptors.items).map _

theorem Service.rows_demands (s : Service) : Demands s.Complete s.rows := by
  refine (objectRow_demands s.shownHandle_demands "service" s.uuid "").bind fun _ _ => ?_
  refine s.characteristicList_demands.bind fun cs listed => ?_
  rw [Service.characteristicList_eq_items listed]
  exact (Demands.mapM Characteristic.rows_demands s.characteristics.items).map _

/-- A tree is listed exactly if it is complete. -/
theorem Tree.listing_demands (tree : Tree) : Demands tree.Complete tree.listing :=
  (Demands.mapM Service.rows_demands tree).map _

end Gatt

end SensorLink
