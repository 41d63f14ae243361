/-
# The order of the doubles

The bits of a double whose sign is clear, read as an integer, are its place among the
doubles of that kind: the order of the doubles is the order of their bits.  A finite one
is `significand · 2 ^ exponent` in one canonical form, and its place is `bitsOf` of that
form.  Whatever lies between two doubles is rounded to one of them, so that a product with
a factor of at least one is never rounded below the double that it started from.
-/

import Mathlib
import SensorLink.Decimal.Binary64

namespace SensorLink.Decimal.Binary64

open Float.Model Float.Model.UnpackedFloat

/-- The place of a double: its bits, read as an integer. -/
def place (x : Float) : ℕ :=
  x.toBits.toNat

/-- The sign of a double is clear, and it is a number. -/
def Upright (x : Float) : Prop :=
  place x ≤ infinityBits

/-- The form `significand · 2 ^ exponent` of a double: the significand has its full length,
unless the exponent is the least one. -/
structure Canonical (m : ℕ) (q : ℤ) : Prop where
  short : m < 2 ^ 53
  least : -1074 ≤ q
  full : 2 ^ 52 ≤ m ∨ q = -1074

variable {m m' n : ℕ} {q q' t : ℤ} {x y f : Float}

theorem Canonical.bitsOf_lt_iff (first : Canonical m q) (second : Canonical m' q') :
    bitsOf m q < bitsOf m' q' ↔ q < q' ∨ q = q' ∧ m < m' := by
  obtain ⟨short, least, full⟩ := first
  obtain ⟨short', least', full'⟩ := second
  simp only [bitsOf, Nat.pow_eq]
  omega

theorem Canonical.bitsOf_inj (first : Canonical m q) (second : Canonical m' q')
    (same : bitsOf m q = bitsOf m' q') : m = m' ∧ q = q' := by
  obtain ⟨short, least, full⟩ := first
  obtain ⟨short', least', full'⟩ := second
  simp only [bitsOf, Nat.pow_eq] at same
  omega

/-- What comes after a double in their order is larger by at least one unit of its last place. -/
theorem Canonical.succ_le (first : Canonical m q) (second : Canonical m' q')
    (before : bitsOf m q < bitsOf m' q') : ((m + 1 : ℕ) : ℚ) * 2 ^ q ≤ m' * 2 ^ q' := by
  rcases (first.bitsOf_lt_iff second).mp before with less | ⟨rfl, less⟩
  · have full : 2 ^ 52 ≤ m' := second.full.resolve_right (by have := first.least; omega)
    have step : (2 : ℚ) ^ q * 2 ≤ 2 ^ q' := by
      rw [← zpow_add_one₀ two_ne_zero]
      exact zpow_le_zpow_right₀ one_le_two less
    have length : ((m + 1 : ℕ) : ℚ) ≤ 2 * 2 ^ 52 := by
      exact_mod_cast (by have := first.short; omega : m + 1 ≤ 2 * 2 ^ 52)
    have full : (2 : ℚ) ^ 52 ≤ m' := by exact_mod_cast full
    calc ((m + 1 : ℕ) : ℚ) * 2 ^ q ≤ 2 * 2 ^ 52 * 2 ^ q := by gcongr
      _ = 2 ^ 52 * (2 ^ q * 2) := by ring
      _ ≤ m' * 2 ^ q' := by gcongr
  · have less : ((m + 1 : ℕ) : ℚ) ≤ m' := by exact_mod_cast less
    gcongr

theorem Canonical.bitsOf_le_of_le (first : Canonical m q) (second : Canonical m' q')
    (le : (m : ℚ) * 2 ^ q ≤ m' * 2 ^ q') : bitsOf m q ≤ bitsOf m' q' := by
  by_contra after
  have more := second.succ_le first (not_le.mp after)
  have positive : (0 : ℚ) < 2 ^ q' := by positivity
  push_cast at more
  linarith

theorem Canonical.le_of_bitsOf_le (first : Canonical m q) (second : Canonical m' q')
    (le : bitsOf m q ≤ bitsOf m' q') : (m : ℚ) * 2 ^ q ≤ m' * 2 ^ q' := by
  rcases le.lt_or_eq with less | same
  · refine le_trans ?_ (first.succ_le second less)
    gcongr
    omega
  · obtain ⟨rfl, rfl⟩ := first.bitsOf_inj second same
    exact le_rfl

theorem bitsOf_mono (le : m ≤ n) (q : ℤ) : bitsOf m q ≤ bitsOf n q :=
  Nat.add_le_add_left le _

theorem toNat_implicit {width : ℕ} (fraction : BitVec width) :
    (1#1 ++ fraction).toNat = 2 ^ width + fraction.toNat := by
  rw [BitVec.toNat_append, ← Nat.shiftLeft_add_eq_or_of_lt fraction.isLt]
  simp [Nat.shiftLeft_eq]

/-- The parts of the bits of a double, as integers. -/
theorem toNat_parts (b : BitVec Format.binary64.numBits) :
    (unpackMantissa b).toNat = b.toNat % 2 ^ 52 ∧
      (unpackExponent b).toNat = b.toNat / 2 ^ 52 % 2 ^ 11 ∧
      (unpackSign b).toNat = b.toNat / 2 ^ 63 % 2 := by
  refine ⟨?_, ?_, ?_⟩
  · simp [unpackMantissa, BitVec.extractLsb_toNat]
  · simp [unpackExponent, BitVec.extractLsb_toNat, Nat.shiftRight_eq_div_pow]
  · simp [unpackSign, BitVec.extractLsb_toNat, Nat.shiftRight_eq_div_pow]

/-- The sign of a double. -/
def sign (x : Float) : Sign :=
  if place x < 2 ^ 63 then .positive else .negative

/-- What a double is, by its bits without the sign. -/
inductive Shape (x : Float) : Prop where
  | zero : place x % 2 ^ 63 = 0 → x.toModel.unpack = .zero (sign x) → Shape x
  | finite {m : ℕ} {q : ℤ} (positive : 0 < m) : Canonical m q → place x % 2 ^ 63 = bitsOf m q →
    bitsOf m q < infinityBits → x.toModel.unpack = .finite (sign x) m q positive → Shape x
  | infinite : place x % 2 ^ 63 = infinityBits → x.toModel.unpack = .infinity (sign x) → Shape x
  | notANumber : infinityBits < place x % 2 ^ 63 → x.toModel.unpack = .notANumber → Shape x

theorem place_lt (x : Float) : place x < 2 ^ 64 :=
  x.toBits.toNat_lt

theorem shape (x : Float) : Shape x := by
  have bound := place_lt x
  obtain ⟨fraction, field, top⟩ := toNat_parts x.toModel.toBits.toBitVec
  rw [show x.toModel.toBits.toBitVec.toNat = place x from rfl] at fraction field top
  have signed : Sign.ofBitVec (@unpackSign Format.binary64 x.toModel.toBits.toBitVec) =
      sign x := by
    rw [Sign.ofBitVec, sign]
    refine if_congr ?_ rfl rfl
    rw [← BitVec.toNat_inj, top, BitVec.toNat_ofNat]
    omega
  have last : @unpackExponent Format.binary64 x.toModel.toBits.toBitVec = -1#_ ↔
      place x / 2 ^ 52 % 2 ^ 11 = 2047 := by
    rw [← BitVec.toNat_inj, field]
    exact Iff.rfl
  have first : @unpackExponent Format.binary64 x.toModel.toBits.toBitVec = 0#_ ↔
      place x / 2 ^ 52 % 2 ^ 11 = 0 := by
    rw [← BitVec.toNat_inj, field]
    exact Iff.rfl
  have none : @unpackMantissa Format.binary64 x.toModel.toBits.toBitVec = 0#_ ↔
      place x % 2 ^ 52 = 0 := by
    rw [← BitVec.toNat_inj, fraction]
    exact Iff.rfl
  have unpacked : x.toModel.unpack =
      UnpackedFloat.unpack Format.binary64 x.toModel.toBits.toBitVec := rfl
  unfold UnpackedFloat.unpack at unpacked
  simp only [signed, last, first, none] at unpacked
  have bias : (Format.binary64.exponentBias : ℤ) + ((52 : ℕ) : ℤ) = 1075 := rfl
  rw [bias] at unpacked
  by_cases top : place x / 2 ^ 52 % 2 ^ 11 = 2047
  · rw [if_pos top] at unpacked
    by_cases clear : place x % 2 ^ 52 = 0
    · rw [if_pos clear] at unpacked
      exact .infinite (by simp only [infinityBits, Nat.pow_eq]; omega) unpacked
    · rw [if_neg clear] at unpacked
      exact .notANumber (by simp only [infinityBits, Nat.pow_eq]; omega) unpacked
  · rw [if_neg top] at unpacked
    by_cases bottom : place x / 2 ^ 52 % 2 ^ 11 = 0
    · rw [if_pos bottom] at unpacked
      by_cases clear : place x % 2 ^ 52 = 0
      · rw [dif_pos clear] at unpacked
        exact .zero (by omega) unpacked
      · rw [dif_neg clear] at unpacked
        refine .finite _ ⟨?_, ?_, ?_⟩ ?_ ?_ unpacked <;>
          simp only [fraction, field, bitsOf, infinityBits, Nat.pow_eq] <;> omega
    · rw [if_neg bottom] at unpacked
      refine .finite _ ⟨?_, ?_, ?_⟩ ?_ ?_ unpacked <;>
        simp only [toNat_implicit, fraction, field, bitsOf, infinityBits, Nat.pow_eq] <;> omega

theorem Upright.sign (upright : Upright x) : sign x = .positive := by
  have upright : place x ≤ infinityBits := upright
  rw [infinityBits, Nat.pow_eq] at upright
  exact if_pos (by omega)

theorem Upright.place_mod (upright : Upright x) : place x % 2 ^ 63 = place x := by
  have upright : place x ≤ infinityBits := upright
  rw [infinityBits, Nat.pow_eq] at upright
  exact Nat.mod_eq_of_lt (by omega)

/-- Canonical forms compare as their bits do. -/
theorem Canonical.compare_then (first : Canonical m q) (second : Canonical m' q') :
    (compare q q').then (compare m m') = compare (bitsOf m q) (bitsOf m' q') := by
  rcases lt_trichotomy (bitsOf m q) (bitsOf m' q') with less | same | less
  · rw [Nat.compare_eq_lt.mpr less]
    rcases (first.bitsOf_lt_iff second).mp less with before | ⟨rfl, before⟩
    · rw [compare_lt_iff_lt.mpr before]; rfl
    · rw [compare_eq_iff_eq.mpr rfl, compare_lt_iff_lt.mpr before]; rfl
  · obtain ⟨rfl, rfl⟩ := first.bitsOf_inj second same
    simp
  · rw [Nat.compare_eq_gt.mpr less]
    rcases (second.bitsOf_lt_iff first).mp less with before | ⟨rfl, before⟩
    · rw [compare_gt_iff_gt.mpr before]; rfl
    · rw [compare_eq_iff_eq.mpr rfl, compare_gt_iff_gt.mpr before]; rfl

theorem bitsOf_pos (positive : 0 < m) : 0 < bitsOf m q :=
  Nat.add_pos_right _ positive

/-- Upright doubles compare as their bits do. -/
theorem compare_eq (first : Upright x) (second : Upright y) :
    x.toModel.unpack.compare y.toModel.unpack = some (compare (place x) (place y)) := by
  have room : 0 < infinityBits := by decide
  rw [← first.place_mod, ← second.place_mod]
  rcases shape x with ⟨known, unpacked⟩ | ⟨positive, canonical, known, bounded, unpacked⟩ |
    ⟨known, unpacked⟩ | ⟨known, -⟩
  on_goal 4 => exact absurd known (by rw [first.place_mod]; exact not_lt.mpr first)
  all_goals
    rcases shape y with ⟨known', unpacked'⟩ |
      ⟨positive', canonical', known', bounded', unpacked'⟩ | ⟨known', unpacked'⟩ | ⟨known', -⟩
    on_goal 4 => exact absurd known' (by rw [second.place_mod]; exact not_lt.mpr second)
    all_goals rw [known, known', unpacked, unpacked', first.sign, second.sign]
  · rfl
  · rw [Nat.compare_eq_lt.mpr (bitsOf_pos positive')]; rfl
  · rw [Nat.compare_eq_lt.mpr room]; rfl
  · rw [Nat.compare_eq_gt.mpr (bitsOf_pos positive)]; rfl
  · rw [← canonical.compare_then canonical']; rfl
  · rw [Nat.compare_eq_lt.mpr bounded]; rfl
  · rw [Nat.compare_eq_gt.mpr room]; rfl
  · rw [Nat.compare_eq_gt.mpr bounded']; rfl
  · rfl

theorem le_iff_compare :
    x ≤ y ↔ (x.toModel.unpack.compare y.toModel.unpack).any (·.isLE) = true :=
  decide_eq_true_iff (p := x.toModel ≤ y.toModel)

theorem lt_iff_compare : x < y ↔ x.toModel.unpack.compare y.toModel.unpack = some .lt :=
  (decide_eq_true_iff (p := x.toModel < y.toModel)).trans beq_iff_eq

theorem le_iff (first : Upright x) (second : Upright y) : x ≤ y ↔ place x ≤ place y := by
  rw [le_iff_compare, compare_eq first second, Option.any_some, Nat.isLE_compare]

theorem lt_iff (first : Upright x) (second : Upright y) : x < y ↔ place x < place y := by
  rw [lt_iff_compare, compare_eq first second, Option.some_inj, Nat.compare_eq_lt]

theorem beq_iff (first : Upright x) (second : Upright y) :
    (x == y) = true ↔ place x = place y := by
  have compared : (x == y) = (x.toModel.unpack.compare y.toModel.unpack == some .eq) := rfl
  rw [compared, compare_eq first second, beq_iff_eq, Option.some_inj, Nat.compare_eq_eq]

/-- A double is finite if its bits, without the sign, come before those of infinity. -/
theorem isFinite_iff (x : Float) : isFinite x = true ↔ place x % 2 ^ 63 < infinityBits := by
  simp only [isFinite, magnitude, infinityBits, Nat.pow_eq]
  rw [show x.toBits.toNat = place x from rfl]
  split_ifs <;> simp <;> omega

/-- The exact size of a finite double is the canonical form that its bits stand for. -/
theorem magnitude_eq (canonical : Canonical m q) (known : place x % 2 ^ 63 = bitsOf m q)
    (bounded : bitsOf m q < infinityBits) : magnitude x = .finite m q := by
  obtain ⟨short, least, full⟩ := canonical
  simp only [magnitude, bitsOf, infinityBits, Nat.pow_eq, Int.ofNat_eq_natCast] at known bounded ⊢
  rw [show x.toBits.toNat = place x from rfl]
  split_ifs
  · omega
  · omega
  · exact congrArg₂ _ (by omega) (by omega)
  · exact congrArg₂ _ (by omega) (by omega)

theorem Upright.canonical (upright : Upright x) (finite : place x < infinityBits) :
    ∃ m q, Canonical m q ∧ place x = bitsOf m q ∧ magnitude x = .finite m q := by
  rw [← upright.place_mod] at finite ⊢
  rcases shape x with ⟨known, -⟩ | @⟨m, q, -, canonical, known, bounded, -⟩ | ⟨known, -⟩ |
    ⟨known, -⟩
  · have canonical : Canonical 0 (-1074) := ⟨by decide, le_rfl, .inr rfl⟩
    exact ⟨0, -1074, canonical, known, magnitude_eq canonical known (by decide)⟩
  · exact ⟨m, q, canonical, known, magnitude_eq canonical known bounded⟩
  · exact absurd known finite.ne
  · exact absurd known finite.le.not_gt

/-- A finite double whose sign is set is less than every upright one, except that the two zeros
are equal. -/
theorem compare_of_not_upright (finite : isFinite x = true) (negative : ¬Upright x)
    (upright : Upright y) : x.toModel.unpack.compare y.toModel.unpack = some .lt ∨
      x.toModel.unpack.compare y.toModel.unpack = some .eq ∧ place y = 0 := by
  have bounded := (isFinite_iff x).mp finite
  have signed : sign x = .negative := by
    refine if_neg fun clear => negative ?_
    rw [Nat.mod_eq_of_lt clear] at bounded
    exact bounded.le
  rw [← upright.place_mod]
  rcases shape x with ⟨-, unpacked⟩ | ⟨_, -, -, -, unpacked⟩ | ⟨known, -⟩ | ⟨known, -⟩
  on_goal 3 => omega
  on_goal 3 => omega
  all_goals
    rcases shape y with ⟨known, unpacked'⟩ | ⟨_, -, -, -, unpacked'⟩ | ⟨-, unpacked'⟩ | ⟨known', -⟩
    on_goal 4 => exact absurd known' (by rw [upright.place_mod]; exact not_lt.mpr upright)
    all_goals rw [unpacked, unpacked', signed, upright.sign]
  · exact .inr ⟨rfl, known⟩
  all_goals exact .inl rfl

/-- A finite double that is not less than a positive one has a clear sign. -/
theorem upright_of_not_lt (finite : isFinite x = true) (upright : Upright y)
    (positive : 0 < place y) (least : ¬x < y) : Upright x := by
  by_contra negative
  rcases compare_of_not_upright finite negative upright with less | ⟨-, none⟩
  · exact least (lt_iff_compare.mpr less)
  · exact positive.ne' none

/-- A finite double that is not at most zero has a clear sign and is positive. -/
theorem upright_of_not_le_zero (finite : isFinite x = true) (least : ¬x ≤ 0) :
    Upright x ∧ 0 < place x := by
  have zero : Upright 0 := Nat.zero_le _
  have upright : Upright x := by
    by_contra negative
    refine least (le_iff_compare.mpr ?_)
    rcases compare_of_not_upright finite negative zero with less | ⟨same, -⟩
    · rw [less]; rfl
    · rw [same]; rfl
  rw [le_iff upright zero] at least
  exact ⟨upright, (Nat.zero_le _).trans_lt (not_le.mp least)⟩

theorem isNotANumber_iff (x : Float) :
    isNotANumber x = true ↔ infinityBits < place x % 2 ^ 63 := by
  simp only [isNotANumber, magnitude, infinityBits, Nat.pow_eq]
  rw [show x.toBits.toNat = place x from rfl]
  split_ifs <;> simp <;> omega

theorem unpack_zero : (0 : Float).toModel.unpack = .zero .positive :=
  rfl

/-- What is not at most zero is positive, or not a number. -/
theorem not_le_zero_iff (x : Float) : ¬x ≤ 0 ↔ 0 < x ∨ isNotANumber x = true := by
  rw [le_iff_compare, lt_iff_compare, unpack_zero, isNotANumber_iff]
  rcases shape x with ⟨known, unpacked⟩ | ⟨_, -, known, bounded, unpacked⟩ | ⟨known, unpacked⟩ |
    ⟨beyond, unpacked⟩
  · rw [unpacked, known]
    cases sign x <;> decide
  · rw [unpacked, known]
    cases sign x <;> simp [UnpackedFloat.compare, bounded.not_gt]
  · rw [unpacked, known]
    cases sign x <;> simp [UnpackedFloat.compare]
  · rw [unpacked]
    exact iff_of_true (by simp [UnpackedFloat.compare]) (.inr beyond)

/-- What is not a number is not positive. -/
theorem not_zero_lt_of_isNotANumber (none : isNotANumber x = true) : ¬0 < x := by
  rw [isNotANumber_iff] at none
  rw [lt_iff_compare, unpack_zero]
  rcases shape x with ⟨known, -⟩ | ⟨_, -, known, bounded, -⟩ | ⟨known, -⟩ | ⟨-, unpacked⟩
  · omega
  · omega
  · omega
  · rw [unpacked]
    exact nofun

/-- No double is less than itself, whether it is a number or not. -/
theorem not_lt_self (x : Float) : ¬x < x := by
  rw [lt_iff_compare]
  rcases shape x with ⟨-, unpacked⟩ | ⟨_, -, -, -, unpacked⟩ | ⟨-, unpacked⟩ | ⟨-, unpacked⟩ <;>
    rw [unpacked]
  · cases sign x <;> decide
  · cases sign x <;> simp [UnpackedFloat.compare]
  · cases sign x <;> decide
  · exact nofun

/-! ## Rounding -/

/-- The canonical form `n · 2 ^ t` is the greatest one that is at most a value. -/
structure Floors (v : ℚ) (n : ℕ) (t : ℤ) : Prop extends Canonical n t where
  le : n * 2 ^ t ≤ v
  lt : v < (n + 1 : ℕ) * 2 ^ t

theorem Floors.bitsOf_le {v : ℚ} (floors : Floors v n t) (canonical : Canonical m q)
    (le : m * 2 ^ q ≤ v) : bitsOf m q ≤ bitsOf n t := by
  by_contra after
  have more := floors.succ_le canonical (not_le.mp after)
  exact absurd (more.trans le) (not_le.mpr floors.lt)

theorem div_bounds {den : ℕ} (num : ℕ) (whole : 0 < den) :
    ((num / den : ℕ) : ℚ) ≤ num / den ∧ (num : ℚ) / den < (num / den + 1 : ℕ) := by
  have den_pos : (0 : ℚ) < den := by exact_mod_cast whole
  rw [le_div_iff₀ den_pos, div_lt_iff₀ den_pos]
  constructor
  · exact_mod_cast Nat.div_mul_le_self num den
  · exact_mod_cast Nat.mul_comm _ _ ▸ Nat.lt_mul_div_succ num whole

/-- The integral part of a quotient, if it is a significand. -/
theorem floors_div {num den : ℕ} (whole : 0 < den) (canonical : Canonical (num / den) t) :
    Floors (num / den * 2 ^ t) (num / den) t := by
  obtain ⟨low, high⟩ := div_bounds num whole
  exact ⟨canonical, by gcongr, by gcongr⟩

theorem toNat_packComponents (field : BitVec 11) (fraction : BitVec 52) :
    (packComponents Format.binary64 .positive field fraction).toNat =
      field.toNat * 2 ^ 52 + fraction.toNat := by
  rw [packComponents, BitVec.toNat_append, ← Nat.shiftLeft_add_eq_or_of_lt fraction.isLt,
    BitVec.toNat_append]
  simp [Sign.toBitVec, Nat.shiftLeft_eq]

/-- The bits of a packed canonical form; what is beyond the greatest double is infinite. -/
theorem toNat_pack (canonical : Canonical m q) (positive : 0 < m) :
    (UnpackedFloat.pack Format.binary64 (.finite .positive m q positive)).toNat =
      min (bitsOf m q) infinityBits := by
  obtain ⟨short, least, full⟩ := canonical
  have length : m.log2 + 1 = Format.binary64.mantissaBits ↔ 2 ^ 52 ≤ m := by
    rw [show Format.binary64.mantissaBits = 53 from rfl, ← Nat.le_log2 positive.ne']
    have := (Nat.log2_lt positive.ne').mpr short
    omega
  have field : q + Format.binary64.exponentBias + (52 : ℕ) = q + 1075 := by
    rw [show Format.binary64.exponentBias = 1023 from rfl]
    omega
  unfold UnpackedFloat.pack
  simp only [length, field]
  split_ifs with beyond normal
  · rw [show (packedInfinity Format.binary64 .positive).toNat = infinityBits by decide]
    simp only [bitsOf, infinityBits, Nat.pow_eq]
    omega
  · rw [toNat_packComponents, BitVec.toNat_ofNat, BitVec.toNat_ofNat]
    simp only [bitsOf, infinityBits, Nat.pow_eq]
    omega
  · obtain rfl := full.resolve_left normal
    rw [toNat_packComponents, BitVec.toNat_ofNat, BitVec.toNat_ofNat]
    simp only [bitsOf, infinityBits, Nat.pow_eq]
    omega

/-- Bits before those of infinity are those of a finite upright double. -/
theorem place_ofBits (bits : ℕ) : place (ofBits bits) = min bits infinityBits := by
  unfold ofBits
  split_ifs with beyond
  · rw [min_eq_right beyond]
    decide
  · rw [min_eq_left (not_le.mp beyond).le]
    have bounded : bits < 2047 * 2 ^ 52 := not_le.mp beyond
    have same : (UInt64.ofNat bits).toBitVec.toNat = bits := by
      rw [UInt64.toNat_toBitVec, UInt64.toNat_ofNat']
      omega
    obtain ⟨-, field, -⟩ := toNat_parts (UInt64.ofNat bits).toBitVec
    have valid : Format.binary64.Valid (UInt64.ofNat bits).toBitVec := by
      refine ⟨fun top _ => ?_⟩
      have top : bits / 2 ^ 52 % 2 ^ 11 = 2047 := by
        rw [← same, ← field, top]
        rfl
      omega
    let x : Float := ⟨⟨UInt64.ofNat bits, valid⟩⟩
    have read : Float.ofBits (UInt64.ofNat bits) = x := Float.ofBits_toBits x
    rw [read]
    exact same

theorem mantissa_shiftRight (em : ExtendedMantissa) (k : ℕ) :
    (em >>> k).mantissa = em.mantissa / 2 ^ k := by
  induction k with
  | zero => simp [HShiftRight.hShiftRight, Nat.repeat]
  | succ k ih =>
    calc (em >>> (k + 1)).mantissa = (em >>> k).mantissa / 2 := rfl
      _ = em.mantissa / 2 ^ (k + 1) := by rw [ih, Nat.div_div_eq_div_mul, pow_succ]

/-- Rounding takes a significand or the next one. -/
theorem roundedMantissa_bounds (em : ExtendedMantissa) :
    em.mantissa ≤ em.roundedMantissa ∧ em.roundedMantissa ≤ em.mantissa + 1 := by
  obtain ⟨mantissa, round, sticky⟩ := em
  cases round <;> cases sticky <;>
    simp only [ExtendedMantissa.roundedMantissa, ExtendedMantissa.accuracy,
      Accuracy.roundToNearestEven] <;> omega

/-- The exponent of doubles of the size of `m · 2 ^ q`. -/
def exponentFor (m : ℕ) (q : ℤ) : ℤ :=
  max (m.log2 + 1 + q - 53) (-1074)

theorem shiftToTargetExponent_eq (m : ℕ) (q : ℤ) (le : q ≤ exponentFor m q) :
    ∃ em : ExtendedMantissa, em.mantissa = m / 2 ^ (exponentFor m q - q).toNat ∧
      shiftToTargetExponent Format.binary64 m q .exact = (em, exponentFor m q) := by
  refine ⟨_, mantissa_shiftRight (.ofMantissaAndAccuracy m .exact) _, ?_⟩
  refine Prod.ext rfl ?_
  have moved : q + ((exponentFor m q - q).toNat : ℤ) = exponentFor m q := by omega
  exact moved

theorem floors_exponentFor (positive : 0 < m) (le : q ≤ exponentFor m q) :
    Floors (m * 2 ^ q) (m / 2 ^ (exponentFor m q - q).toNat) (exponentFor m q) := by
  have low := Nat.log2_self_le positive.ne'
  have high := Nat.lt_log2_self (n := m)
  obtain ⟨k, moved⟩ : ∃ k : ℕ, exponentFor m q = q + k := Int.le.dest le |>.imp fun _ => Eq.symm
  rw [show (exponentFor m q - q).toNat = k by omega, moved]
  have least : m.log2 + 1 ≤ k + 53 ∧ -1074 ≤ q + k ∧ (m.log2 = k + 52 ∨ q + k = -1074) := by
    rw [exponentFor] at moved
    omega
  have whole : (m : ℚ) * 2 ^ q = m / (2 ^ k : ℕ) * 2 ^ (q + k) := by
    rw [zpow_add₀ two_ne_zero, zpow_natCast]
    push_cast
    field_simp
  rw [whole]
  refine floors_div (Nat.two_pow_pos k) ⟨?_, least.2.1, least.2.2.imp_left fun length => ?_⟩
  · refine Nat.div_lt_of_lt_mul (high.trans_le ?_)
    rw [← pow_add]
    exact Nat.pow_le_pow_right two_pos least.1
  · rw [Nat.le_div_iff_mul_le (Nat.two_pow_pos k), ← pow_add]
    rwa [length, Nat.add_comm] at low

/-- A significand that is rounded up to one bit more than its length is carried into the exponent,
which leaves the bits as they are. -/
theorem shiftToTargetExponent_carry (bounded : m ≤ 2 ^ 53) (least : -1074 ≤ q)
    (full : 2 ^ 52 ≤ m ∨ q = -1074) :
    ∃ em q', shiftToTargetExponent Format.binary64 m q .exact = (em, q') ∧
      Canonical em.mantissa q' ∧ bitsOf em.mantissa q' = bitsOf m q := by
  rcases bounded.lt_or_eq with short | rfl
  · have same : exponentFor m q = q := by
      rw [exponentFor]
      rcases full with full | rfl
      · have : m.log2 = 52 := (Nat.log2_eq_iff (by omega)).mpr ⟨full, short⟩
        omega
      · have : m.log2 < 53 := by
          by_cases none : m = 0
          · simp [none]
          · exact (Nat.log2_lt none).mpr short
        omega
    obtain ⟨em, mantissa, shifted⟩ := shiftToTargetExponent_eq m q same.ge
    rw [same] at mantissa shifted
    rw [sub_self, Int.toNat_zero, pow_zero, Nat.div_one] at mantissa
    exact ⟨em, q, shifted, mantissa ▸ ⟨short, least, full⟩, by rw [mantissa]⟩
  · have next : exponentFor (2 ^ 53) q = q + 1 := by
      rw [exponentFor, Nat.log2_two_pow]
      omega
    obtain ⟨em, mantissa, shifted⟩ := shiftToTargetExponent_eq (2 ^ 53) q (by omega)
    rw [next] at mantissa shifted
    rw [show (q + 1 - q).toNat = 1 by omega] at mantissa
    refine ⟨em, q + 1, shifted, mantissa ▸ ⟨by decide, by omega, .inl (by decide)⟩, ?_⟩
    rw [mantissa]
    simp only [bitsOf, Nat.pow_eq]
    omega

/-- A positive value is rounded to the greatest canonical form below it, or to the next one. -/
theorem toNat_round (positive : 0 < m) (le : q ≤ exponentFor m q) :
    ∃ n t r, Floors (m * 2 ^ q) n t ∧ n ≤ r ∧ r ≤ n + 1 ∧
      (UnpackedFloat.pack Format.binary64
        (roundWithAccuracy Format.binary64 .positive m q .exact)).toNat =
          min (bitsOf r t) infinityBits := by
  have floors := floors_exponentFor positive le
  obtain ⟨em, mantissa, shifted⟩ := shiftToTargetExponent_eq m q le
  obtain ⟨low, high⟩ := roundedMantissa_bounds em
  rw [← mantissa] at floors
  obtain ⟨em', t, carried, canonical, same⟩ := shiftToTargetExponent_carry
    (high.trans floors.short) floors.least (floors.full.imp_left low.trans')
  refine ⟨_, _, em.roundedMantissa, floors, low, high, ?_⟩
  unfold roundWithAccuracy
  simp only [shifted, carried]
  rw [← same]
  split_ifs with none
  · obtain rfl : t = -1074 := canonical.full.resolve_left (by omega)
    rw [none]
    decide
  · exact toNat_pack canonical _

theorem canonical_one : Canonical (2 ^ 52) (-52) :=
  ⟨by decide, by decide, .inl le_rfl⟩

theorem place_one : place 1 = bitsOf (2 ^ 52) (-52) := by
  decide +kernel

/-- A product with a factor of at least one is never rounded below the double that it started
from. -/
theorem le_mul (upright : Upright x) (positive : 0 < place x) (finite : place x < infinityBits)
    (factor : Upright f) (least : place 1 ≤ place f) :
    Upright (x * f) ∧ place x ≤ place (x * f) := by
  have packed : place (x * f) = (UnpackedFloat.pack Format.binary64
      (UnpackedFloat.mul Format.binary64 x.toModel.unpack f.toModel.unpack)).toNat := rfl
  rw [← upright.place_mod] at positive finite
  rw [Upright, packed, ← upright.place_mod]
  rcases shape x with ⟨known, -⟩ | @⟨m, q, some, canonical, known, -, unpacked⟩ | ⟨known, -⟩ |
    ⟨known, -⟩
  on_goal 1 => omega
  on_goal 2 => omega
  on_goal 2 => omega
  rw [place_one, ← factor.place_mod] at least
  rw [known, unpacked, upright.sign]
  rcases shape f with ⟨known', -⟩ | @⟨m', q', some', canonical', known', -, unpacked'⟩ |
    ⟨-, unpacked'⟩ | ⟨known', -⟩
  · rw [known'] at least
    exact absurd least (by decide)
  · rw [known'] at least
    rw [unpacked', factor.sign]
    have unit := canonical_one.le_of_bitsOf_le canonical' least
    have full : 2 ^ 52 ≤ m' := by
      obtain ⟨short', -, full'⟩ := canonical'
      refine full'.resolve_right fun bottom => ?_
      simp only [bitsOf, Nat.pow_eq, bottom] at least
      omega
    have length : 52 ≤ (m * m').log2 := by
      rw [Nat.le_log2 (Nat.mul_pos some some').ne']
      exact full.trans (Nat.le_mul_of_pos_left m' some)
    obtain ⟨n, t, r, floors, low, -, rounded⟩ :=
      toNat_round (q := q + q') (Nat.mul_pos some some') (by rw [exponentFor]; omega)
    have product : (UnpackedFloat.mul Format.binary64 (.finite .positive m q some)
        (.finite .positive m' q' some')) =
          roundWithAccuracy Format.binary64 .positive (m * m') (q + q') .exact := rfl
    rw [product, rounded]
    refine ⟨min_le_right _ _, le_min ?_ (known ▸ finite).le⟩
    refine (floors.bitsOf_le canonical ?_).trans (bitsOf_mono low t)
    calc (m : ℚ) * 2 ^ q = m * 2 ^ q * ((2 ^ 52 : ℕ) * 2 ^ (-52 : ℤ)) := by norm_num
      _ ≤ m * 2 ^ q * (m' * 2 ^ q') := by gcongr
      _ = (m * m' : ℕ) * 2 ^ (q + q') := by
        rw [zpow_add₀ two_ne_zero]
        push_cast
        ring
  · rw [unpacked', factor.sign]
    have infinite : (UnpackedFloat.pack Format.binary64 (.infinity .positive)).toNat =
        infinityBits := by decide
    exact ⟨infinite.le, infinite.ge.trans' (known ▸ finite).le⟩
  · exact absurd known' (by rw [factor.place_mod]; exact not_lt.mpr factor)

end SensorLink.Decimal.Binary64
