/-
# Lower-casing

Full lower-casing of a text.  Every character is mapped on its own, with two
exceptions: the dotted capital I becomes two characters, and a capital sigma
takes its final form at the end of a word, that is, when the nearest character
before it that is not case-ignorable is cased and the nearest such character
after it is not.
-/

import SensorLink.Text.CaseTables

namespace SensorLink.Text

/-- Whether the first character that a sigma's context does not look through is cased. -/
def meetsCased : List Char → Bool
  | [] => false
  | c :: rest =>
    if Interval.covers caseIgnorableIntervals c.toNat then meetsCased rest
    else Interval.covers casedIntervals c.toNat

/-- The lower case of one character that has no context. -/
def lowerChar (c : Char) : Char :=
  match lowerCaseRuns.find? (·.covers c.toNat) with
  | some run => Char.ofNat (c.toNat + run.shift).toNat
  | none => c

/-- Lower-case the characters that follow `before`, which is held nearest first. -/
def lowerFrom (before : List Char) : List Char → List Char
  | [] => []
  | c :: rest =>
    let lowered :=
      if c = 'Σ' then [if meetsCased before && !meetsCased rest then 'ς' else 'σ']
      else if c = 'İ' then ['i', '\u0307']
      else [lowerChar c]
    lowered ++ lowerFrom (c :: before) rest

/-- The lower case of a text. -/
def lowercase (s : String) : String :=
  String.ofList (lowerFrom [] s.toList)

/-- Lower-casing an ASCII letter is the usual displacement. -/
example :
    ∀ n ∈ List.range 128, lowerChar (Char.ofNat n) = (Char.ofNat n).toLower := by
  decide +kernel

end SensorLink.Text
