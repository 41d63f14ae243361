/-
# Intervals of code points

Character classes are tables of closed intervals.  A table is read with
`Interval.covers`; nothing else about its layout is relied upon.
-/

namespace SensorLink.Text

/-- A closed interval of code points. -/
abbrev Interval := Nat × Nat

/-- Whether some interval of the table contains the code point. -/
def Interval.covers (table : List Interval) (code : Nat) : Bool :=
  table.any fun interval => interval.1 ≤ code && code ≤ interval.2

end SensorLink.Text
