/-
# The connection's state machine

A connection passes from disconnected through connecting and discovering to
ready, and may fall back to disconnected from any of them.  A generation number
tells attempts apart: it grows whenever an attempt starts and whenever a
connection ends, so an operation can tell whether the attempt that issued it is
still the current one.
-/

import SensorLink.Journal

namespace SensorLink.Connection

/-- The phases of a connection. -/
inductive State where
  | disconnected
  | connecting
  | discovering
  | ready
  deriving DecidableEq, Repr

namespace State

/-- All states. -/
def all : List State := [disconnected, connecting, discovering, ready]

/-- The lower-case name. -/
def name : State → String
  | disconnected => "disconnected"
  | connecting => "connecting"
  | discovering => "discovering"
  | ready => "ready"

/-- The state with a given name. -/
def ofName? (s : String) : Option State :=
  all.find? (·.name == s)

/-- The state that a name denotes. -/
def named (name : String) : Except Failure State :=
  match ofName? name with
  | some state => .ok state
  | none => .error (.unknownState name)

/-- The transitions that the machine accepts. -/
def allows : State → State → Bool
  | disconnected, connecting => true
  | connecting, discovering | connecting, disconnected => true
  | discovering, ready | discovering, disconnected => true
  | ready, disconnected => true
  | _, _ => false

/-- Whether entering a state starts a new generation. -/
def opensGeneration : State → Bool
  | disconnected | connecting => true
  | discovering | ready => false

end State

/-- The state, the generation and the session in charge. -/
structure Machine (σ : Type) where
  state : State
  generation : Nat
  session : Option σ
  deriving DecidableEq, Repr

namespace Machine

variable {σ : Type}

/-- Disconnected, before the first attempt. -/
def fresh : Machine σ :=
  ⟨.disconnected, 0, none⟩

/-- Whether the connection delivers readings. -/
def isReady (m : Machine σ) : Bool :=
  m.state == .ready

/-- Whether a new attempt may start. -/
def canConnect (m : Machine σ) : Bool :=
  m.state == .disconnected

/-- Whether a number names the current attempt; callers may ask about any number. -/
def isCurrent (m : Machine σ) (generation : Int) : Bool :=
  generation == m.generation

/-- A generation names the current attempt if it is the machine's. -/
@[simp]
theorem isCurrent_natCast (m : Machine σ) (generation : Nat) :
    m.isCurrent generation = (generation == m.generation) := by
  rw [isCurrent, Bool.eq_iff_iff, beq_iff_eq, beq_iff_eq]
  exact Int.ofNat_inj

/-- The machine after an accepted transition. -/
def enter (m : Machine σ) (target : State) (session : Option σ) : Machine σ where
  state := target
  generation := if target.opensGeneration then m.generation + 1 else m.generation
  session := match session with
    | some s => some s
    | none => if target = .disconnected then none else m.session

/-- Ask for a transition; a refused one changes nothing. -/
def transition (m : Machine σ) (target : State) (session : Option σ) : Machine σ × Bool :=
  if m.state.allows target then (m.enter target session, true) else (m, false)

/-- What the journal says about a requested transition. -/
def transitionRecord (m : Machine σ) (target : State) : Journal.Record :=
  if m.state.allows target then
    Journal.note .debug ("State transition: " ++ m.state.name ++ " → " ++ target.name ++
      " (generation " ++ toString (m.enter target none).generation ++ ")")
  else
    Journal.note .warning ("Invalid state transition: " ++ m.state.name ++ " → " ++ target.name)

end Machine

end SensorLink.Connection
