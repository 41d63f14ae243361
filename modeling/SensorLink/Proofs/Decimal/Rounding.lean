/-
# Exact quotients as doubles

A positive quotient is brought into a form whose integral part is the significand of the
greatest double below it, unless it is beyond the doubles.  So the nearest double is that
one or the next; it is infinite exactly for what is at least the greatest double and half a
unit of its last place, and it is the quotient itself if that is a double.
-/

import SensorLink.Proofs.Decimal.Order

namespace SensorLink.Decimal.Binary64

variable {num den m n : ℕ} {scale q t : ℤ} {v : ℚ}

/-- What is at least this is rounded to infinity: the greatest double and half a unit of its last
place. -/
def overflow : ℚ :=
  2 ^ 1024 - 2 ^ 970

theorem overflow_eq : overflow = (2 ^ 54 - 1) * 2 ^ 970 := by
  rw [overflow, pow_add 2 54 970, sub_mul, one_mul]

theorem lt_two_pow_bitLength (n : ℕ) : (n : ℚ) < 2 ^ (bitLength n : ℤ) := by
  rw [zpow_natCast, bitLength]
  split_ifs with none
  · simp [none]
  · exact_mod_cast Nat.lt_log2_self

theorem two_pow_bitLength_le (positive : 0 < n) : (2 : ℚ) ^ ((bitLength n : ℤ) - 1) ≤ n := by
  rw [bitLength, if_neg positive.ne', Nat.cast_add_one, add_sub_cancel_right, zpow_natCast]
  exact_mod_cast Nat.log2_self_le positive.ne'

/-- The lengths of a quotient's parts bound it within a factor of four. -/
theorem quotient_bounds (positive : 0 < num) (whole : 0 < den) (scale : ℤ) :
    (2 : ℚ) ^ ((bitLength num : ℤ) - bitLength den + scale - 1) ≤ num / den * 2 ^ scale ∧
      (num : ℚ) / den * 2 ^ scale < 2 ^ ((bitLength num : ℤ) - bitLength den + scale + 1) := by
  have high := lt_two_pow_bitLength num
  have low := two_pow_bitLength_le positive
  have high' := lt_two_pow_bitLength den
  have low' := two_pow_bitLength_le whole
  have den_pos : (0 : ℚ) < den := by exact_mod_cast whole
  constructor
  · calc (2 : ℚ) ^ ((bitLength num : ℤ) - bitLength den + scale - 1)
        = 2 ^ ((bitLength num : ℤ) - 1) / 2 ^ (bitLength den : ℤ) * 2 ^ scale := by
          rw [← zpow_sub₀ two_ne_zero, ← zpow_add₀ two_ne_zero]
          ring_nf
      _ ≤ num / den * 2 ^ scale := by gcongr
  · calc (num : ℚ) / den * 2 ^ scale
        < 2 ^ (bitLength num : ℤ) / 2 ^ ((bitLength den : ℤ) - 1) * 2 ^ scale := by gcongr
      _ = 2 ^ ((bitLength num : ℤ) - bitLength den + scale + 1) := by
          rw [← zpow_sub₀ two_ne_zero, ← zpow_add₀ two_ne_zero]
          ring_nf

/-- What an aligned form stands for, and that its integral part is a significand. -/
structure Aligned.Of (a : Aligned) (v : ℚ) : Prop where
  whole : 0 < a.den
  value : (a.num : ℚ) / a.den * 2 ^ a.exponent = v
  canonical : Canonical (a.num / a.den) a.exponent

/-- Shifting one part of a quotient changes its exponent. -/
theorem shifted_eq (num : ℕ) (whole : 0 < den) (shift : ℤ) :
    let scaled := if 0 ≤ shift then (num <<< shift.toNat, den) else (num, den <<< (-shift).toNat)
    0 < scaled.2 ∧ (scaled.1 : ℚ) / scaled.2 = num / den * 2 ^ shift := by
  have den_pos : (0 : ℚ) < den := by exact_mod_cast whole
  dsimp only
  split_ifs with left
  · obtain ⟨k, rfl⟩ := Int.eq_ofNat_of_zero_le left
    refine ⟨whole, ?_⟩
    rw [Int.toNat_natCast, Nat.shiftLeft_eq, zpow_natCast]
    push_cast
    ring
  · obtain ⟨k, negated⟩ := Int.eq_ofNat_of_zero_le (by omega : 0 ≤ -shift)
    obtain rfl : shift = -k := by omega
    rw [neg_neg, Int.toNat_natCast, Nat.shiftLeft_eq, zpow_neg, zpow_natCast]
    refine ⟨Nat.mul_pos whole (Nat.two_pow_pos k), ?_⟩
    push_cast
    field_simp

theorem align_of (positive : 0 < num) (whole : 0 < den) (scale : ℤ) :
    (align num den scale).Of (num / den * 2 ^ scale) := by
  obtain ⟨low, high⟩ := quotient_bounds positive whole scale
  set guess : ℤ := (bitLength num : ℤ) - bitLength den + scale - 53 with guessed
  set least : ℤ := max guess (-1074) with leastEq
  obtain ⟨whole', value⟩ := shifted_eq num whole (scale - least)
  have aligned : align num den scale =
      let scaled := if 0 ≤ scale - least then (num <<< (scale - least).toNat, den)
        else (num, den <<< (-(scale - least)).toNat)
      if scaled.1 < 2 ^ 53 * scaled.2 then ⟨scaled.1, scaled.2, least⟩
      else ⟨scaled.1, 2 * scaled.2, least + 1⟩ := rfl
  rw [aligned]
  generalize (if 0 ≤ scale - least then (num <<< (scale - least).toNat, den)
    else (num, den <<< (-(scale - least)).toNat)) = scaled at whole' value ⊢
  obtain ⟨top, bottom⟩ := scaled
  dsimp only at whole' value ⊢
  have bottom_pos : (0 : ℚ) < bottom := by exact_mod_cast whole'
  have exact : (top : ℚ) / bottom * 2 ^ least = num / den * 2 ^ scale := by
    rw [value, mul_assoc, ← zpow_add₀ two_ne_zero, sub_add_cancel]
  have unit : (0 : ℚ) < 2 ^ least := by positivity
  have short : top < 2 ^ 54 * bottom := by
    have beyond : (2 : ℚ) ^ (guess + 54) ≤ 2 ^ 54 * 2 ^ least := by
      rw [add_comm, zpow_add₀ two_ne_zero]
      gcongr
      · norm_num
      · exact one_le_two
      · exact le_max_left _ _
    rw [← exact, show (bitLength num : ℤ) - bitLength den + scale + 1 = guess + 54 by omega] at high
    have ratio := lt_of_mul_lt_mul_right (high.trans_le beyond) unit.le
    rw [div_lt_iff₀ bottom_pos] at ratio
    exact_mod_cast ratio
  have full : 2 ^ 52 * bottom ≤ top ∨ least = -1074 := by
    rcases max_choice guess (-1074) with same | same
    · left
      rw [← exact, show (bitLength num : ℤ) - bitLength den + scale - 1 = 52 + least by omega,
        zpow_add₀ two_ne_zero] at low
      have ratio := le_of_mul_le_mul_right low unit
      rw [le_div_iff₀ bottom_pos] at ratio
      exact_mod_cast ratio
    · exact .inr same
  split_ifs with fits
  · refine ⟨whole', exact, Nat.div_lt_of_lt_mul (Nat.mul_comm _ _ ▸ fits), le_max_right _ _, ?_⟩
    exact full.imp_left (Nat.le_div_iff_mul_le whole').mpr
  · have double : 0 < 2 * bottom := Nat.mul_pos two_pos whole'
    refine ⟨double, ?_, Nat.div_lt_of_lt_mul ?_, by dsimp only; omega, .inl ?_⟩
    · rw [← exact, zpow_add_one₀ two_ne_zero]
      push_cast
      field_simp
    · calc top < 2 ^ 54 * bottom := short
        _ = 2 * bottom * 2 ^ 53 := by ring
    · rw [Nat.le_div_iff_mul_le double]
      calc 2 ^ 52 * (2 * bottom) = 2 ^ 53 * bottom := by ring
        _ ≤ top := not_lt.mp fits

theorem roundDiv_bounds (num den : ℕ) :
    num / den ≤ roundDiv num den ∧ roundDiv num den ≤ num / den + 1 := by
  simp only [roundDiv]
  split_ifs <;> omega

/-- What is less than an even number is rounded up to it from half a unit before it on. -/
theorem carry_iff (whole : 0 < den) (even : n % 2 = 0) (short : num / den < n) :
    n ≤ roundDiv num den ↔ 2 * (den * (n - 1)) + den ≤ 2 * num := by
  have split := Nat.div_add_mod num den
  have small := Nat.mod_lt num whole
  by_cases last : num / den = n - 1
  · rw [last] at split
    simp only [roundDiv, last]
    generalize den * (n - 1) = product at split ⊢
    split_ifs <;> omega
  · have rounded := (roundDiv_bounds num den).2
    have bound : den * (num / den + 1) ≤ den * (n - 1) := Nat.mul_le_mul_left den (by omega)
    rw [Nat.mul_add_one] at bound
    generalize num / den = low, den * (num / den) = product at split short last rounded bound
    omega

namespace Aligned.Of

variable {a : Aligned}

theorem floors (of : a.Of v) : Floors v (a.num / a.den) a.exponent :=
  of.value ▸ floors_div of.whole of.canonical

/-- A value is rounded to infinity from half a unit beyond the greatest double on. -/
theorem infinite_iff (of : a.Of v) :
    infinityBits ≤ bitsOf (roundDiv a.num a.den) a.exponent ↔ overflow ≤ v := by
  obtain ⟨low, high⟩ := roundDiv_bounds a.num a.den
  have floors := of.floors
  have whole := of.whole
  have value := of.value
  generalize a.num = num, a.den = den, a.exponent = t at *
  obtain ⟨⟨short, least, full⟩, le, lt⟩ := floors
  have den_pos : (0 : ℚ) < den := by exact_mod_cast whole
  rcases lt_trichotomy t 971 with below | rfl | above
  · refine iff_of_false (not_le.mpr ?_) (not_le.mpr ?_)
    · simp only [bitsOf, infinityBits, Nat.pow_eq]
      omega
    · have length : ((num / den + 1 : ℕ) : ℚ) ≤ 2 ^ 53 := by exact_mod_cast short
      calc v < (num / den + 1 : ℕ) * 2 ^ t := lt
        _ ≤ 2 ^ 53 * 2 ^ (970 : ℤ) := by
          gcongr
          · exact one_le_two
          · omega
        _ = 2 ^ 53 * 2 ^ 970 := by rw [← zpow_natCast 2 970]; rfl
        _ < overflow := by
          rw [overflow_eq]
          gcongr
          norm_num
  · have carried : infinityBits ≤ bitsOf (roundDiv num den) 971 ↔ 2 ^ 53 ≤ roundDiv num den := by
      simp only [bitsOf, infinityBits, Nat.pow_eq]
      omega
    have unit : overflow = (2 * (2 ^ 53 - 1) + 1) / 2 * 2 ^ (971 : ℤ) := by
      rw [overflow_eq, show (971 : ℤ) = (970 : ℕ) + 1 from rfl, zpow_add_one₀ two_ne_zero,
        zpow_natCast]
      generalize (2 : ℚ) ^ 970 = last
      ring
    rw [carried, carry_iff whole (by decide) short, ← value, unit,
      mul_le_mul_iff_left₀ (by positivity), le_div_iff₀ den_pos]
    rw [← Nat.cast_le (α := ℚ)]
    push_cast
    constructor <;> intro bound <;> linarith
  · have full : 2 ^ 52 ≤ num / den := full.resolve_right (by omega)
    refine iff_of_true ?_ ?_
    · simp only [bitsOf, infinityBits, Nat.pow_eq]
      omega
    · have full : (2 : ℚ) ^ 52 ≤ (num / den : ℕ) := by exact_mod_cast full
      calc overflow ≤ 2 ^ 54 * 2 ^ 970 := by
            rw [overflow_eq]
            gcongr
            norm_num
        _ = 2 ^ 52 * 2 ^ (972 : ℤ) := by
          rw [show (972 : ℤ) = (970 : ℕ) + 2 from rfl, zpow_add₀ two_ne_zero, zpow_natCast]
          generalize (2 : ℚ) ^ 970 = last
          ring
        _ ≤ (num / den : ℕ) * 2 ^ t := by
          gcongr
          · exact one_le_two
          · omega
        _ ≤ v := le

/-- A value that is a canonical form is rounded to itself. -/
theorem roundDiv_eq (of : a.Of v) (canonical : Canonical m q) (exact : (m : ℚ) * 2 ^ q = v) :
    roundDiv a.num a.den = m ∧ a.exponent = q := by
  have floors := of.floors
  have low := floors.bitsOf_le canonical exact.le
  have high := floors.bitsOf_le_of_le canonical (floors.le.trans exact.ge)
  obtain ⟨-, exponent⟩ := floors.toCanonical.bitsOf_inj canonical (high.antisymm low)
  have den_pos : (0 : ℚ) < a.den := by exact_mod_cast of.whole
  have value := of.value.trans exact.symm
  rw [exponent, mul_eq_mul_right_iff, or_iff_left (by positivity), div_eq_iff den_pos.ne'] at value
  have multiple : a.num = m * a.den := by exact_mod_cast value
  exact ⟨by rw [multiple, roundDiv_mul of.whole], exponent⟩

end Aligned.Of

theorem two_pow_lt_overflow {k : ℕ} (small : k ≤ 1023) : (2 : ℚ) ^ k < overflow := by
  rw [overflow_eq]
  calc (2 : ℚ) ^ k ≤ 2 ^ (53 + 970) := pow_le_pow_right₀ one_le_two small
    _ = 2 ^ 53 * 2 ^ 970 := pow_add 2 53 970
    _ < (2 ^ 54 - 1) * 2 ^ 970 := mul_lt_mul_of_pos_right (by norm_num) (by positivity)

theorem overflow_le_two_pow : overflow ≤ (2 : ℚ) ^ (1026 : ℤ) := by
  rw [overflow]
  calc (2 : ℚ) ^ 1024 - 2 ^ 970 ≤ 2 ^ 1024 := sub_le_self _ (by positivity)
    _ ≤ 2 ^ 1026 := pow_le_pow_right₀ one_le_two (by decide)
    _ = 2 ^ (1026 : ℤ) := (zpow_natCast 2 1026).symm

/-- A quotient beyond the doubles on either side is not aligned. -/
theorem ofQuotient_cases (positive : 0 < num) (whole : 0 < den) (scale : ℤ) :
    (num : ℚ) / den * 2 ^ scale < 2 ^ (-1079 : ℤ) ∧ ofQuotient num den scale = 0 ∨
      2 ^ (1026 : ℤ) ≤ (num : ℚ) / den * 2 ^ scale ∧ ofQuotient num den scale = infinity ∨
      let a := align num den scale
      ofQuotient num den scale = ofBits (bitsOf (roundDiv a.num a.den) a.exponent) := by
  obtain ⟨low, high⟩ := quotient_bounds positive whole scale
  unfold ofQuotient
  dsimp only
  by_cases little : (bitLength num : ℤ) - bitLength den + scale < -1080
  · refine .inl ⟨high.trans_le (zpow_le_zpow_right₀ one_le_two (by omega)), if_pos ?_⟩
    exact .inr (.inr little)
  · rw [if_neg (by omega)]
    by_cases large : 1026 < (bitLength num : ℤ) - bitLength den + scale
    · refine .inr (.inl ⟨low.trans' (zpow_le_zpow_right₀ one_le_two (by omega)), if_pos large⟩)
    · exact .inr (.inr (if_neg large))

/-- A quotient is rounded to infinity from half a unit beyond the greatest double on. -/
theorem place_ofQuotient (positive : 0 < num) (whole : 0 < den) (scale : ℤ) :
    Upright (ofQuotient num den scale) ∧
      (place (ofQuotient num den scale) = infinityBits ↔ overflow ≤ num / den * 2 ^ scale) := by
  rcases ofQuotient_cases positive whole scale with ⟨little, zero⟩ | ⟨large, infinite⟩ | aligned
  · rw [zero]
    refine ⟨Nat.zero_le _, iff_of_false (by decide) (not_le.mpr ?_)⟩
    exact (little.trans_le (zpow_le_one_of_nonpos₀ one_le_two (by decide))).trans
      (two_pow_lt_overflow (k := 0) (by decide))
  · rw [infinite]
    have placed : place infinity = infinityBits := by decide
    exact ⟨placed.le, iff_of_true placed (overflow_le_two_pow.trans large)⟩
  · rw [aligned, Upright, place_ofBits, ← (align_of positive whole scale).infinite_iff]
    exact ⟨min_le_right _ _, min_eq_right_iff⟩

/-- The finite doubles lie between those bounds. -/
theorem Canonical.bounds (canonical : Canonical m q) (positive : 0 < m)
    (bounded : bitsOf m q < infinityBits) :
    (2 : ℚ) ^ (-1079 : ℤ) ≤ m * 2 ^ q ∧ (m : ℚ) * 2 ^ q < 2 ^ (1026 : ℤ) := by
  obtain ⟨short, least, full⟩ := canonical
  have greatest : q ≤ 971 := by
    simp only [bitsOf, infinityBits, Nat.pow_eq] at bounded
    omega
  have one : (1 : ℚ) ≤ m := by exact_mod_cast positive
  have short : (m : ℚ) < 2 ^ 53 := by exact_mod_cast short
  constructor
  · calc (2 : ℚ) ^ (-1079 : ℤ) ≤ 2 ^ q := zpow_le_zpow_right₀ one_le_two (by omega)
      _ ≤ m * 2 ^ q := le_mul_of_one_le_left (by positivity) one
  · calc (m : ℚ) * 2 ^ q < 2 ^ 53 * 2 ^ q := by gcongr
      _ = 2 ^ (53 + q) := by rw [zpow_add₀ two_ne_zero]; norm_num
      _ ≤ 2 ^ (1026 : ℤ) := zpow_le_zpow_right₀ one_le_two (by omega)

/-- A quotient that is a double is that double. -/
theorem place_ofQuotient_of_exact (positive : 0 < num) (whole : 0 < den) (scale : ℤ)
    (canonical : Canonical m q) (some : 0 < m) (bounded : bitsOf m q < infinityBits)
    (exact : (m : ℚ) * 2 ^ q = num / den * 2 ^ scale) :
    place (ofQuotient num den scale) = bitsOf m q := by
  obtain ⟨low, high⟩ := canonical.bounds some bounded
  rcases ofQuotient_cases positive whole scale with ⟨little, -⟩ | ⟨large, -⟩ | aligned
  · exact absurd (exact ▸ little) low.not_gt
  · exact absurd (exact ▸ large) high.not_ge
  · obtain ⟨significand, exponent⟩ := (align_of positive whole scale).roundDiv_eq canonical exact
    rw [aligned, place_ofBits, significand, exponent, min_eq_left bounded.le]

/-- The doubles around a quotient that is at least one are at least one. -/
theorem one_le_around (positive : 0 < num) (whole : 0 < den)
    (least : (1 : ℚ) ≤ num / den * 2 ^ scale) :
    (Upright (around num den scale).1 ∧ place 1 ≤ place (around num den scale).1) ∧
      Upright (around num den scale).2 ∧ place 1 ≤ place (around num den scale).2 := by
  obtain ⟨-, high⟩ := quotient_bounds positive whole scale
  have room : place 1 ≤ infinityBits - 1 := by decide +kernel
  have more (bits : ℕ) (le : place 1 ≤ bits) :
      Upright (ofBits bits) ∧ place 1 ≤ place (ofBits bits) := by
    rw [Upright, place_ofBits]
    exact ⟨min_le_right _ _, le_min le (room.trans (Nat.sub_le _ _))⟩
  have size : ¬(bitLength num : ℤ) - bitLength den + scale < -1080 := fun little => by
    have tiny := zpow_le_one_of_nonpos₀ (one_le_two (α := ℚ)) (by omega :
      (bitLength num : ℤ) - bitLength den + scale + 1 ≤ 0)
    exact absurd (least.trans_lt (high.trans_le tiny)) (lt_irrefl 1)
  unfold around
  dsimp only
  rw [if_neg (by omega), if_neg size]
  by_cases large : 1026 < (bitLength num : ℤ) - bitLength den + scale
  · rw [if_pos large]
    have placed : place infinity = infinityBits := by decide
    exact ⟨more _ room, placed.le, room.trans ((Nat.sub_le _ _).trans placed.ge)⟩
  · rw [if_neg large]
    have below := (align_of positive whole scale).floors.bitsOf_le canonical_one
      (least.trans' (by norm_num))
    rw [← place_one] at below
    exact ⟨more _ below, more _ (by split_ifs <;> omega)⟩

theorem ofInt_natCast (n : ℕ) : ofInt n = ofQuotient n 1 0 := by
  unfold ofInt
  exact if_neg (Int.natCast_nonneg n).not_gt

/-- An integer is beyond the doubles from half a unit beyond the greatest one on. -/
theorem isFinite_ofInt_iff (n : ℕ) : isFinite (ofInt n) = true ↔ (n : ℚ) < overflow := by
  rw [ofInt_natCast]
  rcases Nat.eq_zero_or_pos n with rfl | positive
  · refine iff_of_true (by decide +kernel) ?_
    exact (two_pow_lt_overflow (k := 0) (by decide)).trans' (by norm_num)
  · obtain ⟨upright, infinite⟩ := place_ofQuotient positive one_pos 0
    rw [isFinite_iff, upright.place_mod, lt_iff_le_and_ne, ← not_le]
    refine (and_iff_right upright).trans (not_congr (infinite.trans ?_))
    simp

/-- An integer that is a double stands for itself. -/
theorem nearestInt_eq (positive : 0 < n) (canonical : Canonical m q)
    (bounded : bitsOf m q < infinityBits) (exact : (m : ℚ) * 2 ^ q = n) :
    nearestInt n = n := by
  have some : 0 < m := by
    rcases Nat.eq_zero_or_pos m with rfl | some
    · rw [Nat.cast_zero, zero_mul, eq_comm, Nat.cast_eq_zero] at exact
      omega
    · exact some
  have placed := place_ofQuotient_of_exact positive one_pos 0 canonical some bounded
    (by simpa using exact)
  have clear : place (ofQuotient n 1 0) < 2 ^ 63 := by
    rw [placed]
    exact bounded.trans (by decide)
  have size := magnitude_eq canonical ((Nat.mod_eq_of_lt clear).trans placed) bounded
  have sign : isNegative (ofQuotient n 1 0) = false := decide_eq_false (not_le.mpr clear)
  rw [nearestInt, round?, ofInt_natCast, size, sign]
  dsimp only [Option.getD_some]
  rw [if_neg Bool.false_ne_true, Nat.cast_inj]
  split_ifs with left
  · obtain ⟨k, rfl⟩ := Int.eq_ofNat_of_zero_le left
    rw [Int.toNat_natCast, Nat.shiftLeft_eq]
    exact_mod_cast exact
  · obtain ⟨k, negated⟩ := Int.eq_ofNat_of_zero_le (by omega : 0 ≤ -q)
    obtain rfl : q = -k := by omega
    rw [zpow_neg, zpow_natCast, ← div_eq_mul_inv, div_eq_iff (by positivity)] at exact
    have multiple : m = n * 2 ^ k := by exact_mod_cast exact
    rw [neg_neg, Int.toNat_natCast, Nat.one_shiftLeft, multiple, roundDiv_mul (Nat.two_pow_pos k)]

/-- The integers that fit into a significand are doubles. -/
theorem nearestInt_of_lt (short : n < 2 ^ 53) : nearestInt n = n := by
  rcases Nat.eq_zero_or_pos n with rfl | positive
  · decide +kernel
  · have length : n.log2 < 53 := (Nat.log2_lt positive.ne').mpr short
    have low := Nat.log2_self_le positive.ne'
    have high := Nat.lt_log2_self (n := n)
    have fill {k : ℕ} : 2 ^ k * 2 ^ (52 - n.log2) = 2 ^ (k + (52 - n.log2)) := (pow_add 2 _ _).symm
    have canonical : Canonical (n * 2 ^ (52 - n.log2)) ((n.log2 : ℤ) - 52) := by
      refine ⟨?_, by omega, .inl ?_⟩
      · calc n * 2 ^ (52 - n.log2) < 2 ^ (n.log2 + 1) * 2 ^ (52 - n.log2) :=
              Nat.mul_lt_mul_of_pos_right high (Nat.two_pow_pos _)
          _ = 2 ^ 53 := fill.trans (congrArg (2 ^ ·) (by omega))
      · calc 2 ^ 52 = 2 ^ n.log2 * 2 ^ (52 - n.log2) :=
              (fill.trans (congrArg (2 ^ ·) (by omega))).symm
          _ ≤ n * 2 ^ (52 - n.log2) := Nat.mul_le_mul_right _ low
    refine nearestInt_eq positive canonical ?_ ?_
    · have bound := canonical.short
      simp only [bitsOf, infinityBits, Nat.pow_eq]
      omega
    · obtain ⟨k, rest⟩ : ∃ k, 52 - n.log2 = k := ⟨_, rfl⟩
      rw [rest, show (n.log2 : ℤ) - 52 = -k by omega, zpow_neg, zpow_natCast]
      push_cast
      field_simp

end SensorLink.Decimal.Binary64
