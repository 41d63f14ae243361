/-
# Sensor kinds

The three quantities an environmental sensor publishes, in their fixed order,
and tables that hold one entry for each of them.
-/

namespace SensorLink.Sensor

/-- A measured quantity. -/
inductive Kind where
  | temperature
  | pressure
  | humidity
  deriving DecidableEq, Repr

namespace Kind

/-- All kinds, in their fixed order. -/
def all : List Kind := [temperature, pressure, humidity]

/-- Every kind is listed. -/
theorem mem_all (kind : Kind) : kind ∈ all := by
  cases kind <;> simp [all]

/-- The lower-case name. -/
def name : Kind → String
  | temperature => "temperature"
  | pressure => "pressure"
  | humidity => "humidity"

/-- The kind with a given name. -/
def ofName? (s : String) : Option Kind :=
  all.find? (·.name == s)

/-- A kind is found by its name. -/
theorem ofName?_name (kind : Kind) : ofName? kind.name = some kind := by
  cases kind <;> decide

/-- The sixteen-bit number that the Bluetooth registry assigns to the characteristic. -/
def assignedNumber : Kind → Nat
  | temperature => 0x2a6e
  | pressure => 0x2a6d
  | humidity => 0x2a6f

end Kind

/-- One entry for each kind. -/
structure PerKind (α : Type) where
  temperature : α
  pressure : α
  humidity : α
  deriving DecidableEq, Repr

namespace PerKind

variable {α β : Type}

/-- The same entry for every kind. -/
def const (a : α) : PerKind α := ⟨a, a, a⟩

/-- The entry of a kind. -/
def get (t : PerKind α) : Kind → α
  | .temperature => t.temperature
  | .pressure => t.pressure
  | .humidity => t.humidity

/-- Replace the entry of a kind. -/
def set (t : PerKind α) (kind : Kind) (a : α) : PerKind α :=
  match kind with
  | .temperature => { t with temperature := a }
  | .pressure => { t with pressure := a }
  | .humidity => { t with humidity := a }

/-- Apply a function to every entry. -/
def map (f : α → β) (t : PerKind α) : PerKind β :=
  ⟨f t.temperature, f t.pressure, f t.humidity⟩

@[simp] theorem get_const (a : α) (kind : Kind) : (const a).get kind = a := by
  cases kind <;> rfl

@[simp] theorem get_set_self (t : PerKind α) (kind : Kind) (a : α) :
    (t.set kind a).get kind = a := by
  cases kind <;> rfl

theorem get_set_of_ne (t : PerKind α) {kind other : Kind} (a : α) (different : other ≠ kind) :
    (t.set kind a).get other = t.get other := by
  cases kind <;> cases other <;> first | rfl | exact absurd rfl different

theorem get_set (t : PerKind α) (kind other : Kind) (a : α) :
    (t.set kind a).get other = if other = kind then a else t.get other := by
  cases kind <;> cases other <;> rfl

@[simp] theorem get_map (f : α → β) (t : PerKind α) (kind : Kind) :
    (t.map f).get kind = f (t.get kind) := by
  cases kind <;> rfl

/-- Two tables with the same entries are equal. -/
@[ext] theorem ext {t u : PerKind α} (same : ∀ kind, t.get kind = u.get kind) : t = u := by
  cases t
  cases u
  simp only [mk.injEq]
  exact ⟨same .temperature, same .pressure, same .humidity⟩

end PerKind

end SensorLink.Sensor
