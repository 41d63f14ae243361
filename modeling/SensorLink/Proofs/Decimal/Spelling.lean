/-
# The characters of number texts

The text of a finite double is made of digits, a point, signs and the mark of an
exponent; each of the other doubles has a word of its own.
-/

import SensorLink.Decimal.Style

namespace SensorLink.Decimal

/-- Whether a character may stand in the text of a finite double. -/
def isFigure (c : Char) : Bool :=
  c.isDigit || c = '.' || c = 'e' || c = '-' || c = '+'

/-- All characters of a text are figures. -/
def Figures (cs : List Char) : Prop :=
  ∀ c ∈ cs, isFigure c = true

instance : DecidablePred Figures :=
  List.decidableBAll (isFigure · = true)

namespace Figures

variable {cs ds : List Char} {c : Char}

theorem nil : Figures [] := by
  intro c mem
  cases mem

theorem cons (figure : isFigure c = true) (figures : Figures cs) : Figures (c :: cs) := by
  intro d mem
  rcases List.mem_cons.mp mem with rfl | later
  · exact figure
  · exact figures d later

theorem append (first : Figures cs) (second : Figures ds) : Figures (cs ++ ds) := by
  intro c mem
  rcases List.mem_append.mp mem with mem | mem
  · exact first c mem
  · exact second c mem

theorem replicate (n : Nat) (figure : isFigure c = true) : Figures (List.replicate n c) := by
  intro d mem
  rwa [List.eq_of_mem_replicate mem]

theorem take (n : Nat) (figures : Figures cs) : Figures (cs.take n) :=
  fun c mem => figures c (List.mem_of_mem_take mem)

theorem drop (n : Nat) (figures : Figures cs) : Figures (cs.drop n) :=
  fun c mem => figures c (List.mem_of_mem_drop mem)

theorem digitsOf (n : Nat) : Figures (digitsOf n) := by
  intro c mem
  have digit := Nat.isDigit_of_mem_toDigits (by decide) (by decide) mem
  simp [isFigure, digit]

theorem zeroFill (width : Nat) (figures : Figures cs) : Figures (Text.zeroFill width cs) :=
  (replicate _ (by decide)).append figures

theorem placePoint (places units : Nat) : Figures (placePoint places units) := by
  have filled : Figures (Text.zeroFill (places + 1) (Decimal.digitsOf units)) :=
    (digitsOf units).zeroFill _
  unfold Decimal.placePoint
  dsimp only
  split
  · exact filled.take _
  · exact (filled.take _).append (cons (by decide) (filled.drop _))

variable {style : Style}

theorem positional (tail : Figures style.integralTail) (figures : Figures ds) (point : Int) :
    Figures (positional style ds point) := by
  unfold Decimal.positional
  split
  · exact cons (by decide) (cons (by decide) ((replicate _ (by decide)).append figures))
  · split
    · exact (figures.append (replicate _ (by decide))).append tail
    · exact (figures.take _).append (cons (by decide) (figures.drop _))

theorem scientific (figures : Figures ds) (exponent : Int) :
    Figures (scientific style ds exponent) := by
  have sign : isFigure (if exponent < 0 then '-' else '+') = true := by
    split <;> decide
  have tail : Figures ('e' :: (if exponent < 0 then '-' else '+') ::
      Text.zeroFill style.exponentWidth (Decimal.digitsOf exponent.natAbs)) :=
    cons (by decide) (cons sign ((digitsOf _).zeroFill _))
  unfold Decimal.scientific
  refine append ?_ tail
  cases ds with
  | nil => exact nil
  | cons d rest =>
    cases rest with
    | nil => exact figures
    | cons second rest =>
      have first : isFigure d = true := figures d List.mem_cons_self
      exact cons first (cons (by decide) (figures.drop 1))

theorem write (tail : Figures style.integralTail) (d : Digits) : Figures (style.write d) := by
  unfold Style.write
  dsimp only
  split
  · exact positional tail (digitsOf _) _
  · exact scientific (digitsOf _) _

theorem signed (negative : Bool) (figures : Figures cs) :
    Figures (if negative then '-' :: cs else cs) := by
  split
  · exact cons (by decide) figures
  · exact figures

end Figures

/-- The text of a double is one of three words, or made of figures. -/
theorem Style.figures_showBy {style : Style} (tail : Figures style.integralTail)
    (decimal : Nat → Int → Digits) (x : Float) :
    style.showBy decimal x ∈ [style.notANumber, style.infinite, "-" ++ style.infinite] ∨
      Figures (style.showBy decimal x).toList := by
  unfold Style.showBy
  cases Binary64.magnitude x with
  | notANumber => simp
  | infinite => cases Binary64.isNegative x <;> simp
  | finite m q =>
    right
    simp only [String.toList_ofList]
    apply Figures.signed
    split
    · exact .cons (by decide) tail
    · exact .write tail _

/-- So is the text with a fixed number of places. -/
theorem figures_fixed (places : Nat) (x : Float) :
    fixed places x ∈ ["nan", "inf", "-inf"] ∨ Figures (fixed places x).toList := by
  unfold fixed
  cases Binary64.magnitude x with
  | notANumber => simp
  | infinite => cases Binary64.isNegative x <;> simp
  | finite m q =>
    right
    simp only [String.toList_ofList]
    exact .signed _ (.placePoint places _)

end SensorLink.Decimal
