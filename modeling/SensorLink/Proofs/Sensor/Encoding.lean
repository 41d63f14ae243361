/-
# The octets of a value

A payload starts with the octets of an integer, the least significant first, and a negative
integer is written in two's complement.  Within the range of a kind an integer and its octets
determine each other.  So a payload that is long enough is decoded to the one integer of
the range whose octets it starts with, whatever stands behind them, and only a payload that
is too short is refused.
-/

import Mathlib
import SensorLink.Sensor.Payload

namespace SensorLink.Sensor

@[simp]
theorem length_littleEndianBytes (width n : ℕ) : (littleEndianBytes width n).length = width := by
  induction width generalizing n with
  | zero => rfl
  | succ width ih => rw [littleEndianBytes, List.length_cons, ih]

theorem littleEndian_lt (octets : List UInt8) : littleEndian octets < 256 ^ octets.length := by
  induction octets with
  | nil => exact Nat.one_pos
  | cons octet rest ih =>
    have bounded := octet.toNat_lt
    rw [littleEndian, List.length_cons, pow_succ]
    omega

/-- Octets are those of the number that they write. -/
theorem littleEndianBytes_littleEndian (octets : List UInt8) :
    littleEndianBytes octets.length (littleEndian octets) = octets := by
  induction octets with
  | nil => rfl
  | cons octet rest ih =>
    have bounded := octet.toNat_lt
    have low : (octet.toNat + 256 * littleEndian rest) % 256 = octet.toNat := by omega
    have high : (octet.toNat + 256 * littleEndian rest) / 256 = littleEndian rest := by omega
    rw [List.length_cons, littleEndianBytes, littleEndian, low, high, ih, UInt8.ofNat_toNat]

/-- The octets of a number write it, as far as it fits into them. -/
theorem littleEndian_littleEndianBytes (width n : ℕ) :
    littleEndian (littleEndianBytes width n) = n % 256 ^ width := by
  induction width generalizing n with
  | zero => rw [pow_zero, Nat.mod_one]; rfl
  | succ width ih =>
    have octet : (UInt8.ofNat (n % 256)).toNat = n % 256 := by
      rw [UInt8.toNat_ofNat']
      omega
    rw [littleEndianBytes, littleEndian, ih, octet, pow_succ', Nat.mod_mul]

/-- The octet at a position is the digit of that power of 256. -/
theorem toNat_getElem_littleEndianBytes {width n i : ℕ}
    (inside : i < (littleEndianBytes width n).length) :
    ((littleEndianBytes width n)[i]).toNat = n / 256 ^ i % 256 := by
  induction width generalizing n i with
  | zero => exact absurd inside (Nat.not_lt_zero i)
  | succ width ih =>
    cases i with
    | zero =>
      simp only [littleEndianBytes, List.getElem_cons_zero, UInt8.toNat_ofNat', pow_zero,
        Nat.div_one]
      omega
    | succ i =>
      simp only [littleEndianBytes, List.getElem_cons_succ, ih, pow_succ', Nat.div_div_eq_div_mul]

namespace Kind

variable {kind : Kind} {n m : ℤ} {payload : List UInt8}

/-- How many integers the range of a kind holds. -/
def modulus (kind : Kind) : ℕ :=
  256 ^ kind.width

theorem inRange_temperature : temperature.InRange n ↔ -32768 ≤ n ∧ n < 32768 :=
  Iff.rfl

theorem inRange_pressure : pressure.InRange n ↔ 0 ≤ n ∧ n < 4294967296 :=
  Iff.rfl

theorem inRange_humidity : humidity.InRange n ↔ 0 ≤ n ∧ n < 65536 :=
  Iff.rfl

theorem encode_eq (kind : Kind) (n : ℤ) :
    kind.encode n = littleEndianBytes kind.width (n % kind.modulus).toNat := by
  cases kind <;> rfl

@[simp]
theorem length_encode (kind : Kind) (n : ℤ) : (kind.encode n).length = kind.width := by
  rw [encode_eq, length_littleEndianBytes]

theorem width_le_length_append (kind : Kind) (n : ℤ) (rest : List UInt8) :
    kind.width ≤ (kind.encode n ++ rest).length := by
  rw [List.length_append, length_encode]
  exact Nat.le_add_right _ _

theorem modulus_pos (kind : Kind) : (0 : ℤ) < kind.modulus := by
  cases kind <;> decide

/-- Integers of the range that have the same remainder are the same. -/
theorem InRange.eq_of_emod_eq (first : kind.InRange n) (second : kind.InRange m)
    (same : n % kind.modulus = m % kind.modulus) : n = m := by
  cases kind with
  | temperature =>
    rw [inRange_temperature] at first second
    rw [show (temperature.modulus : ℤ) = 65536 from rfl] at same
    omega
  | pressure =>
    rw [inRange_pressure] at first second
    rw [show (pressure.modulus : ℤ) = 4294967296 from rfl] at same
    omega
  | humidity =>
    rw [inRange_humidity] at first second
    rw [show (humidity.modulus : ℤ) = 65536 from rfl] at same
    omega

/-- The integer that is read is the one of the range that its octets leave open. -/
theorem hundredths_spec (long : kind.width ≤ payload.length) :
    kind.InRange (kind.hundredths payload) ∧
      kind.hundredths payload % kind.modulus = littleEndian (payload.take kind.width) := by
  have bound := littleEndian_lt (payload.take kind.width)
  rw [List.length_take, min_eq_left long] at bound
  unfold hundredths
  generalize littleEndian (payload.take kind.width) = octets at bound ⊢
  cases kind with
  | temperature =>
    change octets < 65536 at bound
    change temperature.InRange (if decide (32768 ≤ octets) then octets - 65536 else octets) ∧
      (if decide (32768 ≤ octets) then (octets : ℤ) - 65536 else octets) % 65536 = octets
    rw [inRange_temperature]
    split_ifs with negative <;> simp only [decide_eq_true_eq] at negative <;> omega
  | pressure =>
    change octets < 4294967296 at bound
    change pressure.InRange octets ∧ (octets : ℤ) % 4294967296 = octets
    rw [inRange_pressure]
    omega
  | humidity =>
    change octets < 65536 at bound
    change humidity.InRange octets ∧ (octets : ℤ) % 65536 = octets
    rw [inRange_humidity]
    omega

/-- A payload that is long enough starts with the octets of the integer that is read from it. -/
theorem encode_hundredths (long : kind.width ≤ payload.length) :
    kind.encode (kind.hundredths payload) = payload.take kind.width := by
  have short : (payload.take kind.width).length = kind.width := by
    rw [List.length_take, min_eq_left long]
  have whole := littleEndianBytes_littleEndian (payload.take kind.width)
  rw [short] at whole
  rw [encode_eq, (hundredths_spec long).2, Int.toNat_natCast, whole]

/-- Octets of the range determine their integer. -/
theorem InRange.eq_of_encode_eq (first : kind.InRange n) (second : kind.InRange m)
    (same : kind.encode n = kind.encode m) : n = m := by
  refine first.eq_of_emod_eq second ?_
  have written (n : ℤ) : (littleEndian (kind.encode n) : ℤ) = n % kind.modulus := by
    have remainder := Int.emod_nonneg n kind.modulus_pos.ne'
    have bound := Int.emod_lt_of_pos n kind.modulus_pos
    rw [encode_eq, littleEndian_littleEndianBytes, Nat.mod_eq_of_lt, Int.toNat_of_nonneg remainder]
    exact (Int.toNat_lt remainder).mpr bound
  rw [← written, ← written, same]

/-- What stands behind the octets of an integer does not matter. -/
theorem InRange.hundredths_append (known : kind.InRange n) (rest : List UInt8) :
    kind.hundredths (kind.encode n ++ rest) = n := by
  have long := kind.width_le_length_append n rest
  refine (hundredths_spec long).1.eq_of_encode_eq known ?_
  rw [encode_hundredths long, List.take_left' (kind.length_encode n)]

/-- The octet of an integer at a position is the digit of that power of 256 of the integer, with
quotients rounded down. -/
theorem toNat_getElem_encode {i : ℕ} (inside : i < (kind.encode n).length) :
    (((kind.encode n)[i]).toNat : ℤ) = n / 256 ^ i % 256 := by
  have before : i < kind.width := kind.length_encode n ▸ inside
  obtain ⟨k, split⟩ := Nat.exists_eq_add_of_lt before
  have remainder := Int.emod_nonneg n kind.modulus_pos.ne'
  have positive : (256 : ℤ) ^ i ≠ 0 := by positivity
  have factor : (kind.modulus : ℤ) = 256 ^ i * (256 * 256 ^ k) := by
    rw [modulus, split]
    push_cast
    ring
  have digit : (((kind.encode n)[i]).toNat : ℤ) = n % kind.modulus / 256 ^ i % 256 := by
    simp only [encode_eq, toNat_getElem_littleEndianBytes]
    push_cast
    rw [Int.toNat_of_nonneg remainder]
  calc (((kind.encode n)[i]).toNat : ℤ) = n % kind.modulus / 256 ^ i % 256 := digit
    _ = (n % kind.modulus / 256 ^ i + 256 * (256 ^ k * (n / kind.modulus))) % 256 :=
      (Int.add_mul_emod_self_left ..).symm
    _ = (n % kind.modulus + kind.modulus * (n / kind.modulus)) / 256 ^ i % 256 := by
      rw [← Int.add_mul_ediv_left _ _ positive, factor]
      ring_nf
    _ = n / 256 ^ i % 256 := by rw [Int.emod_add_mul_ediv]

theorem decode_eq_error_iff {f : Failure} : kind.decode payload = .error f ↔
    payload.length < kind.width ∧ f = .payloadTooShort kind kind.width payload.length := by
  unfold decode
  split_ifs with short
  · simp [short, eq_comm]
  · simp [short]

theorem decode_eq_ok (long : kind.width ≤ payload.length) :
    kind.decode payload = .ok (Float.ofInt (kind.hundredths payload) / 100) :=
  if_neg long.not_gt

/-- What the payloads of a kind are decoded to. -/
structure DecodesExactly (kind : Kind) : Prop where
  /-- A payload is refused, as malformed, exactly if it is too short. -/
  refused : ∀ payload f, kind.decode payload = .error f ↔
    payload.length < kind.width ∧ f = .payloadTooShort kind kind.width payload.length
  /-- Any other starts with the octets of exactly one integer of the range, and is decoded to a
  hundredth of that integer. -/
  decoded : ∀ payload, kind.width ≤ payload.length → ∃ n, kind.InRange n ∧
    kind.encode n = payload.take kind.width ∧
    (∀ m, kind.InRange m → kind.encode m = payload.take kind.width → m = n) ∧
    kind.decode payload = .ok (Float.ofInt n / 100)
  /-- Every integer of the range is decoded from its octets, whatever stands behind them. -/
  encoded : ∀ n rest, kind.InRange n →
    kind.decode (kind.encode n ++ rest) = .ok (Float.ofInt n / 100)
  /-- The octets of an integer are its digits to the base 256, the lowest first.  Quotients are
  rounded down, so that a negative integer is written in two's complement. -/
  octets : ∀ n, (kind.encode n).length = kind.width ∧
    ∀ i (inside : i < (kind.encode n).length), (((kind.encode n)[i]).toNat : ℤ) = n / 256 ^ i % 256
  /-- The temperature takes two octets and is signed; the pressure takes four and the humidity two,
  and neither is signed. -/
  range : ∀ n, match kind with
    | temperature => kind.width = 2 ∧ (kind.InRange n ↔ -2 ^ 15 ≤ n ∧ n < 2 ^ 15)
    | pressure => kind.width = 4 ∧ (kind.InRange n ↔ 0 ≤ n ∧ n < 2 ^ 32)
    | humidity => kind.width = 2 ∧ (kind.InRange n ↔ 0 ≤ n ∧ n < 2 ^ 16)

/-- **Decoding.**  The payloads of every kind are integers of a fixed width, the lowest octet
first, in hundredths: none that is long enough is refused, none is clamped, and octets behind
the integer do not matter. -/
theorem decodesExactly (kind : Kind) : kind.DecodesExactly where
  refused _ _ := decode_eq_error_iff
  decoded payload long := by
    obtain ⟨known, -⟩ := hundredths_spec long
    have written := encode_hundredths long
    refine ⟨kind.hundredths payload, known, written, fun m other same => ?_, decode_eq_ok long⟩
    exact other.eq_of_encode_eq known (same.trans written.symm)
  encoded n rest known := by
    rw [decode_eq_ok (kind.width_le_length_append n rest), known.hundredths_append]
  octets n := ⟨kind.length_encode n, fun _ => toNat_getElem_encode⟩
  range n := by
    cases kind with
    | temperature => exact ⟨rfl, inRange_temperature⟩
    | pressure => exact ⟨rfl, inRange_pressure⟩
    | humidity => exact ⟨rfl, inRange_humidity⟩

/-- Ten and a half degrees below zero, with an octet to spare. -/
example : temperature.decode [0xe6, 0xfb, 0x07] = .ok (Float.ofInt (-1050) / 100) := rfl

end Kind
end SensorLink.Sensor
