/-
# Powers of doubles

A power is computed with a fixed number of leading bits: a product loses at most the part
`loss` of its value, and never falls below one if its factors do not.  So the power of a
base of at least one is a double of at least one, as long as there is one.  There is none
from the point on at which the exact power leaves the doubles, and this point comes for
every base that is greater than one.
-/

import SensorLink.Proofs.Decimal.Rounding

namespace SensorLink.Decimal.Binary64

namespace Scaled

/-- The exact value of a quantity. -/
def value (s : Scaled) : ℚ :=
  s.significand * 2 ^ s.exponent

/-- The part of its value that a product may lose. -/
def loss : ℚ :=
  1 / 2 ^ 511

variable {s a b : Scaled} {n depth : ℕ}

/-- Cutting drops less than one unit of the last bit that is kept; and if it drops anything, the
bits that are kept have the full length. -/
theorem clip_eq (s : Scaled) :
    s.clip = s ∨ 2 ^ 511 ≤ s.clip.significand ∧
      s.clip.value ≤ s.value ∧ s.value < (s.clip.significand + 1 : ℕ) * 2 ^ s.clip.exponent := by
  obtain ⟨m, q⟩ := s
  rcases Nat.eq_zero_or_pos (bitLength m - precision) with none | some
  · left
    unfold clip
    dsimp only
    rw [none, Nat.shiftRight_zero, Nat.cast_zero, add_zero]
  · right
    have clipped : clip ⟨m, q⟩ =
        ⟨m / 2 ^ (bitLength m - precision), q + (bitLength m - precision : ℕ)⟩ := by
      unfold clip
      dsimp only
      rw [Nat.shiftRight_eq_div_pow]
    have length : m.log2 = (bitLength m - precision) + 511 ∧ m ≠ 0 := by
      rw [precision, bitLength] at some ⊢
      split_ifs at some ⊢ with zero <;> omega
    generalize bitLength m - precision = extra at *
    obtain ⟨low, high⟩ := div_bounds m (Nat.two_pow_pos extra)
    have whole : (m : ℚ) * 2 ^ q = m / (2 ^ extra : ℕ) * 2 ^ (q + extra) := by
      rw [zpow_add₀ two_ne_zero, zpow_natCast]
      push_cast
      field_simp
    rw [clipped, value, value, whole]
    refine ⟨?_, by dsimp only; gcongr, by dsimp only; gcongr⟩
    rw [Nat.le_div_iff_mul_le (Nat.two_pow_pos extra), ← pow_add, Nat.add_comm, ← length.1]
    exact Nat.log2_self_le length.2

theorem clip_le (s : Scaled) : s.clip.value ≤ s.value := by
  rcases s.clip_eq with same | ⟨-, le, -⟩
  · rw [same]
  · exact le

theorem loss_pos : 0 < loss := by
  rw [loss]
  positivity

theorem loss_le_one : loss ≤ 1 := by
  rw [loss, div_le_one (by positivity)]
  exact one_le_pow₀ one_le_two

theorem value_nonneg (s : Scaled) : 0 ≤ s.value := by
  rw [value]
  positivity

theorem le_clip (s : Scaled) : s.value * (1 - loss) ≤ s.clip.value := by
  rcases s.clip_eq with same | ⟨full, le, lt⟩
  · rw [same]
    exact mul_le_of_le_one_right s.value_nonneg (sub_le_self 1 loss_pos.le)
  · have unit : (2 : ℚ) ^ s.clip.exponent ≤ s.clip.value * loss := by
      have full : (2 : ℚ) ^ 511 ≤ s.clip.significand := by exact_mod_cast full
      rw [value, loss, mul_one_div, le_div_iff₀ (by positivity), mul_comm]
      gcongr
    have expand : s.value < s.clip.value + 2 ^ s.clip.exponent := by
      rw [Nat.cast_add_one, add_one_mul] at lt
      exact lt
    have more : s.clip.value * loss ≤ s.value * loss := mul_le_mul_of_nonneg_right le loss_pos.le
    linarith

/-- What is at least one stays at least one. -/
theorem one_le_clip (least : 1 ≤ s.value) : 1 ≤ s.clip.value := by
  rcases s.clip_eq with same | ⟨full, -, lt⟩
  · rwa [same]
  · have above := least.trans_lt lt
    rw [value]
    generalize s.clip.significand = n, s.clip.exponent = t at full above ⊢
    rcases le_or_gt 0 t with whole | fraction
    · have some : 1 ≤ n := Nat.one_le_two_pow.trans full
      exact one_le_mul_of_one_le_of_one_le (Nat.one_le_cast.mpr some)
        (one_le_zpow₀ one_le_two whole)
    · obtain ⟨k, negated⟩ := Int.eq_ofNat_of_zero_le (by omega : 0 ≤ -t)
      obtain rfl : t = -k := by omega
      rw [zpow_neg, zpow_natCast, ← div_eq_mul_inv, lt_div_iff₀ (by positivity), one_mul] at above
      rw [zpow_neg, zpow_natCast, ← div_eq_mul_inv, le_div_iff₀ (by positivity), one_mul]
      exact_mod_cast Nat.lt_succ_iff.mp (by exact_mod_cast above)

theorem value_product (a b : Scaled) :
    value ⟨a.significand * b.significand, a.exponent + b.exponent⟩ = a.value * b.value := by
  rw [value, value, value, zpow_add₀ two_ne_zero]
  push_cast
  ring

theorem mul_le (a b : Scaled) : (a.mul b).value ≤ a.value * b.value :=
  (clip_le _).trans_eq (value_product a b)

theorem le_mul (a b : Scaled) : a.value * b.value * (1 - loss) ≤ (a.mul b).value :=
  value_product a b ▸ le_clip _

theorem one_le_mul (first : 1 ≤ a.value) (second : 1 ≤ b.value) : 1 ≤ (a.mul b).value :=
  one_le_clip ((value_product a b).ge.trans' (one_le_mul_of_one_le_of_one_le first second))

theorem value_one : value ⟨1, 0⟩ = 1 := by
  simp [value]

theorem pow_double (s : Scaled) (depth : ℕ) (positive : 0 < n) :
    s.pow (depth + 1) (2 * n) = (s.pow depth n).mul (s.pow depth n) := by
  have half : 2 * n / 2 = n := by omega
  rw [pow, if_neg (by omega), if_neg (by omega), half]

theorem pow_double_add_one (s : Scaled) (depth n : ℕ) :
    s.pow (depth + 1) (2 * n + 1) = ((s.pow depth n).mul (s.pow depth n)).mul s := by
  have half : (2 * n + 1) / 2 = n := by omega
  rw [pow, if_neg (by omega), if_pos (by omega), half]

/-- A property of a power follows along its repeated squaring. -/
theorem pow_induction {motive : ℕ → Scaled → Prop} (s : Scaled) (zero : motive 0 ⟨1, 0⟩)
    (double : ∀ n power, 0 < n → motive n power → motive (2 * n) (power.mul power))
    (next : ∀ n power, motive n power → motive (2 * n + 1) ((power.mul power).mul s))
    (deep : n < 2 ^ depth) : motive n (s.pow depth n) := by
  induction depth generalizing n with
  | zero =>
    obtain rfl : n = 0 := by simpa using deep
    exact zero
  | succ depth ih =>
    obtain ⟨half, rfl | rfl⟩ := n.even_or_odd'
    · rcases Nat.eq_zero_or_pos half with rfl | positive
      · exact zero
      · rw [pow_double s depth positive]
        exact double half _ positive (ih (by omega))
    · rw [pow_double_add_one]
      exact next half _ (ih (by omega))

theorem one_le_pow (least : 1 ≤ s.value) (deep : n < 2 ^ depth) : 1 ≤ (s.pow depth n).value :=
  pow_induction (motive := fun _ power => 1 ≤ power.value) s value_one.ge
    (fun _ _ _ half => one_le_mul half half)
    (fun _ _ half => one_le_mul (one_le_mul half half) least) deep

/-- A power is never more than the exact one. -/
theorem pow_le (s : Scaled) (deep : n < 2 ^ depth) : (s.pow depth n).value ≤ s.value ^ n := by
  refine pow_induction (motive := fun n power => power.value ≤ s.value ^ n) s ?_ ?_ ?_ deep
  · rw [value_one, pow_zero]
  · intro n power _ half
    calc (power.mul power).value ≤ power.value * power.value := mul_le _ _
      _ ≤ s.value ^ n * s.value ^ n := mul_self_le_mul_self power.value_nonneg half
      _ = s.value ^ (2 * n) := by ring
  · intro n power half
    calc ((power.mul power).mul s).value ≤ (power.mul power).value * s.value := mul_le _ _
      _ ≤ power.value * power.value * s.value :=
        mul_le_mul_of_nonneg_right (mul_le _ _) s.value_nonneg
      _ ≤ s.value ^ n * s.value ^ n * s.value :=
        mul_le_mul_of_nonneg_right (mul_self_le_mul_self power.value_nonneg half) s.value_nonneg
      _ = s.value ^ (2 * n + 1) := by ring

/-- A power loses at most `loss` with each of its products, of which there are fewer than
`4 * n`. -/
theorem le_pow (s : Scaled) (deep : n < 2 ^ depth) :
    s.value ^ n * (1 - loss) ^ (4 * n - 2) ≤ (s.pow depth n).value := by
  have kept : 0 ≤ 1 - loss := sub_nonneg.mpr loss_le_one
  have fades {few many : ℕ} (le : few ≤ many) (k : ℕ) :
      s.value ^ k * (1 - loss) ^ many ≤ s.value ^ k * (1 - loss) ^ few :=
    mul_le_mul_of_nonneg_left (pow_le_pow_of_le_one kept (sub_le_self 1 loss_pos.le) le)
      (pow_nonneg s.value_nonneg k)
  have some (n : ℕ) : 0 ≤ s.value ^ n * (1 - loss) ^ (4 * n - 2) :=
    mul_nonneg (pow_nonneg s.value_nonneg n) (pow_nonneg kept _)
  have square {n : ℕ} {power : Scaled}
      (half : s.value ^ n * (1 - loss) ^ (4 * n - 2) ≤ power.value) :
      s.value ^ (2 * n) * (1 - loss) ^ (2 * (4 * n - 2) + 1) ≤ (power.mul power).value :=
    calc s.value ^ (2 * n) * (1 - loss) ^ (2 * (4 * n - 2) + 1)
        = s.value ^ n * (1 - loss) ^ (4 * n - 2) * (s.value ^ n * (1 - loss) ^ (4 * n - 2)) *
          (1 - loss) := by ring
      _ ≤ power.value * power.value * (1 - loss) :=
        mul_le_mul_of_nonneg_right (mul_self_le_mul_self (some n) half) kept
      _ ≤ (power.mul power).value := le_mul _ _
  refine pow_induction (motive := fun n power =>
    s.value ^ n * (1 - loss) ^ (4 * n - 2) ≤ power.value) s ?_ ?_ ?_ deep
  · rw [value_one, pow_zero, one_mul, pow_zero]
  · intro n power positive half
    exact (fades (by omega) (2 * n)).trans (square half)
  · intro n power half
    calc s.value ^ (2 * n + 1) * (1 - loss) ^ (4 * (2 * n + 1) - 2)
        ≤ s.value ^ (2 * n + 1) * (1 - loss) ^ (2 * (4 * n - 2) + 2) := fades (by omega) _
      _ = s.value ^ (2 * n) * (1 - loss) ^ (2 * (4 * n - 2) + 1) * s.value * (1 - loss) := by ring
      _ ≤ (power.mul power).value * s.value * (1 - loss) :=
        mul_le_mul_of_nonneg_right (mul_le_mul_of_nonneg_right (square half) s.value_nonneg) kept
      _ ≤ ((power.mul power).mul s).value := le_mul _ _

end Scaled

/-- The exact size of a finite double. -/
def size (x : Float) : ℚ :=
  match magnitude x with
  | .finite m q => Scaled.value ⟨m, q⟩
  | _ => 0

variable {base f : Float} {m n : ℕ} {q : ℤ}

theorem power?_natCast (known : magnitude base = .finite m q) (positive : 0 < n) :
    power? base n =
      let exponent := nearestInt n
      let raised := Scaled.pow ⟨m, q⟩ (bitLength exponent.natAbs) exponent.natAbs
      if ofQuotient raised.significand 1 raised.exponent == infinity then none
      else
        let near := around raised.significand 1 raised.exponent
        some (if Float.pow base (ofInt exponent) ≤ near.1 then near.1 else near.2) := by
  have some : ¬(n : ℤ) = 0 := by omega
  have above : 0 < (n : ℤ) := by omega
  rw [power?, if_neg some, known]
  simp only [if_pos above]

theorem lt_two_pow_bitLength_nat (n : ℕ) : n < 2 ^ bitLength n := by
  have bound := lt_two_pow_bitLength n
  rw [zpow_natCast] at bound
  exact_mod_cast bound

theorem place_infinity : place infinity = infinityBits := by
  decide

/-- There is no power from the point on at which it is rounded to infinity.  If there is one, and
the base is at least one, so is the power. -/
theorem power?_spec (known : magnitude base = .finite m q) (least : 1 ≤ size base)
    (positive : 0 < n) :
    ∃ raised : ℚ, raised ≤ size base ^ (nearestInt n).natAbs ∧
      size base ^ (nearestInt n).natAbs * (1 - Scaled.loss) ^ (4 * (nearestInt n).natAbs - 2) ≤
        raised ∧
      (power? base n = none ↔ overflow ≤ raised) ∧
      ∀ f, power? base n = some f → Upright f ∧ place 1 ≤ place f := by
  have value : size base = Scaled.value ⟨m, q⟩ := by rw [size, known]
  rw [value] at least ⊢
  rw [power?_natCast known positive]
  dsimp only
  generalize nearestInt n = exponent
  have deep := lt_two_pow_bitLength_nat exponent.natAbs
  have more := Scaled.one_le_pow least deep
  have low := Scaled.pow_le ⟨m, q⟩ deep
  have high := Scaled.le_pow ⟨m, q⟩ deep
  generalize Scaled.pow ⟨m, q⟩ (bitLength exponent.natAbs) exponent.natAbs = raised at *
  have some : 0 < raised.significand := by
    refine Nat.pos_of_ne_zero fun none => ?_
    rw [Scaled.value, none] at more
    norm_num at more
  have quotient : (raised.significand : ℚ) / (1 : ℕ) * 2 ^ raised.exponent = raised.value := by
    rw [Nat.cast_one, div_one, Scaled.value]
  obtain ⟨upright, infinite⟩ := place_ofQuotient some one_pos raised.exponent
  have beyond := beq_iff upright place_infinity.le
  rw [place_infinity, infinite, quotient] at beyond
  refine ⟨raised.value, low, high, ?_, fun f made => ?_⟩
  · rw [← beyond]
    split_ifs with unbounded <;> simp [unbounded]
  · obtain ⟨below, above⟩ := one_le_around some one_pos (quotient.ge.trans' more)
    split_ifs at made <;> obtain rfl := Option.some.inj made
    · exact below
    · exact above

/-- A power is there as long as the exact one is not rounded to infinity. -/
theorem exists_power?_of_lt (known : magnitude base = .finite m q) (least : 1 ≤ size base)
    (bounded : size base ^ (nearestInt n).natAbs < overflow) : ∃ f, power? base n = some f := by
  rcases Nat.eq_zero_or_pos n with rfl | positive
  · exact ⟨1, rfl⟩
  · obtain ⟨raised, low, -, none, -⟩ := power?_spec known least positive
    refine Option.ne_none_iff_exists'.mp fun absent => ?_
    exact absurd (none.mp absent) (not_le.mpr (low.trans_lt bounded))

/-- What a power may have lost does not bring it back among the doubles. -/
theorem overflow_le_of_loss {k : ℕ} (small : k ≤ 2 ^ 64) :
    overflow ≤ 2 ^ 1024 * (1 - Scaled.loss) ^ k := by
  have bernoulli := one_add_mul_le_pow (a := -Scaled.loss)
    (by have := Scaled.loss_le_one; linarith) k
  have lost : (k : ℚ) * Scaled.loss ≤ 1 / 2 ^ 54 := by
    have small : (k : ℚ) ≤ 2 ^ 64 := by exact_mod_cast small
    calc (k : ℚ) * Scaled.loss ≤ 2 ^ 64 * Scaled.loss :=
          mul_le_mul_of_nonneg_right small Scaled.loss_pos.le
      _ = 1 / 2 ^ 447 := by
          rw [Scaled.loss, pow_add 2 64 447]
          generalize (2 : ℚ) ^ 447 = unit
          ring
      _ ≤ 1 / 2 ^ 54 := one_div_le_one_div_of_le (by positivity)
          (pow_le_pow_right₀ one_le_two (by decide))
  calc overflow = 2 ^ 1024 * (1 - 1 / 2 ^ 54) := by
        rw [overflow_eq, pow_add 2 54 970]
        generalize (2 : ℚ) ^ 970 = last
        ring
    _ ≤ 2 ^ 1024 * (1 - Scaled.loss) ^ k := by
        refine mul_le_mul_of_nonneg_left ?_ (by positivity)
        rw [sub_eq_add_neg 1 Scaled.loss]
        linarith

/-- There is no power from `2 ^ 1024` on. -/
theorem power?_eq_none (known : magnitude base = .finite m q) (least : 1 ≤ size base)
    (itself : nearestInt n = n) (small : n ≤ 2 ^ 62) (beyond : 2 ^ 1024 ≤ size base ^ n) :
    power? base n = none := by
  have positive : 0 < n := by
    refine Nat.pos_of_ne_zero ?_
    rintro rfl
    rw [pow_zero] at beyond
    exact absurd beyond (not_le.mpr (one_lt_pow₀ one_lt_two (by decide)))
  obtain ⟨raised, -, high, none, -⟩ := power?_spec known least positive
  rw [itself, Int.natAbs_natCast] at high
  refine none.mpr (high.trans' ?_)
  calc overflow ≤ 2 ^ 1024 * (1 - Scaled.loss) ^ (4 * n - 2) := overflow_le_of_loss (by omega)
    _ ≤ size base ^ n * (1 - Scaled.loss) ^ (4 * n - 2) :=
      mul_le_mul_of_nonneg_right beyond (pow_nonneg (sub_nonneg.mpr Scaled.loss_le_one) _)

/-- A base that is greater than one exceeds it by the last place of one at least. -/
theorem one_add_le_size (canonical : Canonical m q) (known : magnitude base = .finite m q)
    (grows : 1 < size base) : 1 + 1 / ((2 ^ 52 : ℕ) : ℚ) ≤ size base := by
  have value : size base = m * 2 ^ q := by
    rw [size, known]
    rfl
  rw [value] at grows ⊢
  have before : bitsOf (2 ^ 52) (-52) < bitsOf m q := by
    by_contra after
    have less := canonical.le_of_bitsOf_le canonical_one (not_lt.mp after)
    norm_num at less
    linarith
  refine (canonical_one.succ_le canonical before).trans' (le_of_eq ?_)
  norm_num

/-- The powers of every base that is greater than one leave the doubles. -/
theorem two_pow_le_size_pow (canonical : Canonical m q) (known : magnitude base = .finite m q)
    (grows : 1 < size base) : (2 : ℚ) ^ 1024 ≤ size base ^ 2 ^ 62 := by
  have more := one_add_le_size canonical known grows
  have doubled : (2 : ℚ) ≤ size base ^ 2 ^ 52 := by
    have some : 2 ^ 52 ≠ 0 := by decide
    generalize 2 ^ 52 = places at more some ⊢
    have positive : (0 : ℚ) < places := by exact_mod_cast Nat.pos_of_ne_zero some
    have least : (0 : ℚ) ≤ 1 / places := by positivity
    calc (2 : ℚ) = 1 + places * (1 / places) := by
          rw [mul_one_div_cancel positive.ne']
          norm_num
      _ ≤ (1 + 1 / places) ^ places := one_add_mul_le_pow (by linarith) places
      _ ≤ size base ^ places := pow_le_pow_left₀ (by linarith) more places
  calc (2 : ℚ) ^ 1024 ≤ (size base ^ 2 ^ 52) ^ 1024 := pow_le_pow_left₀ two_pos.le doubled _
    _ = size base ^ (2 ^ 52 * 1024) := (pow_mul _ _ _).symm
    _ = size base ^ 2 ^ 62 := congrArg (size base ^ ·) (by norm_num)

end SensorLink.Decimal.Binary64
