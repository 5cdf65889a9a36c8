import PairedAudio.Proofs.Samples.Packing

/-! Integers of a device as numbers, and as samples again.

A number of few significant bits is encoded without a loss, so a sample of sixteen bits is divided by
2¹⁵ exactly. It is packed with one level less, though, and the fraction is cut off: what is packed lies
one step nearer to zero, unless it is zero.
-/

set_option autoImplicit false

namespace PairedAudio.Audio

open Wire (bytesOf signedBytes)

namespace Binary32

section Encoding

variable {negative : Bool} {exponent fraction size : ℕ}

def ofFields (negative : Bool) (exponent fraction : ℕ) : Binary32 :=
  let unsigned := exponent * 0x800000 + fraction
  ⟨UInt32.ofNat (if negative then unsigned + 0x80000000 else unsigned)⟩

section Fields

variable (finite : exponent < 255) (small : fraction < 0x800000)
include finite small

theorem toNat_ofFields : (ofFields negative exponent fraction).bits.toNat =
    exponent * 0x800000 + fraction + if negative then 0x80000000 else 0 := by
  have narrow : exponent * 0x800000 + fraction + 0x80000000 < 2 ^ 32 := by omega
  cases negative with
  | true =>
    rw [if_pos rfl]
    exact UInt32.toNat_ofNat_of_lt' narrow
  | false =>
    rw [if_neg Bool.false_ne_true, Nat.add_zero]
    exact UInt32.toNat_ofNat_of_lt' (Nat.lt_of_add_right_lt narrow)

theorem exponent_ofFields : (ofFields negative exponent fraction).exponent = exponent := by
  rw [Binary32.exponent, toNat_ofFields finite small]
  split <;> omega

theorem fraction_ofFields : (ofFields negative exponent fraction).fraction = fraction := by
  rw [Binary32.fraction, toNat_ofFields finite small]
  split <;> omega

theorem isNegative_ofFields : (ofFields negative exponent fraction).isNegative = negative := by
  rw [isNegative_eq, toNat_ofFields finite small, Nat.testBit_eq_decide_div_mod_eq]
  cases negative with
  | true => exact decide_eq_true (by simp; omega)
  | false => exact decide_eq_false (by simp; omega)

theorem size_ofFields : (ofFields negative exponent fraction).size =
    if exponent = 0 then fraction else (2 ^ 23 + fraction) * 2 ^ (exponent - 1) := by
  rw [size_eq, exponent_ofFields finite small, fraction_ofFields finite small]

theorem isNaN_ofFields : (ofFields negative exponent fraction).isNaN = false := by
  rw [isNaN, exponent_ofFields finite small]
  have other : (exponent == 255) = false := beq_false_of_ne finite.ne
  rw [other, Bool.false_and]

end Fields

structure Encodes (negative : Bool) (size : ℕ) (x : Binary32) : Prop where
  isNegative : x.isNegative = negative
  size : x.size = size
  isNaN : x.isNaN = false

theorem encodes_ofFields (finite : exponent < 255) (small : fraction < 2 ^ 23)
    (counted : (if exponent = 0 then fraction else (2 ^ 23 + fraction) * 2 ^ (exponent - 1)) = size) :
    Encodes negative size (ofFields negative exponent fraction) where
  isNegative := isNegative_ofFields finite small
  size := (size_ofFields finite small).trans counted
  isNaN := isNaN_ofFields finite small

theorem ofSize_subnormal (negative : Bool) (small : size < 2 ^ 23) :
    ofSize negative size = ofFields negative 0 size := by
  have shift : size.log2 - 23 = 0 := by
    rcases Nat.eq_zero_or_pos size with rfl | positive
    · rfl
    · have log := (Nat.log2_lt positive.ne').mpr small
      omega
  have unsigned : min (0 * 0x800000 + size >>> 0) 0x7f800000 = 0 * 0x800000 + size := by
    rw [Nat.shiftRight_zero]
    omega
  rw [ofSize, shift, unsigned, ofFields]

theorem ofSize_normal (negative : Bool) {m k : ℕ} (least : 2 ^ 23 ≤ m) (greatest : m < 2 ^ 24)
    (finite : k < 254) : ofSize negative (m * 2 ^ k) = ofFields negative (k + 1) (m - 2 ^ 23) := by
  have positive : m * 2 ^ k ≠ 0 := (Nat.mul_pos (by omega) (Nat.two_pow_pos k)).ne'
  have log : (m * 2 ^ k).log2 = 23 + k := by
    apply (Nat.log2_eq_iff positive).mpr
    rw [Nat.pow_add, Nat.add_right_comm, Nat.pow_add]
    exact ⟨Nat.mul_le_mul_right _ least, Nat.mul_lt_mul_of_pos_right greatest (Nat.two_pow_pos k)⟩
  have shift : (m * 2 ^ k).log2 - 23 = k := by omega
  have significand : (m * 2 ^ k) >>> k = m := by
    rw [Nat.shiftRight_eq_div_pow, Nat.mul_div_cancel m (Nat.two_pow_pos k)]
  have unsigned : min (k * 0x800000 + m) 0x7f800000 = (k + 1) * 0x800000 + (m - 2 ^ 23) := by omega
  rw [ofSize, shift, significand, unsigned, ofFields]

theorem exists_significand (fits : Fits 24 size) (large : 2 ^ 23 ≤ size) :
    ∃ m k, 2 ^ 23 ≤ m ∧ m < 2 ^ 24 ∧ size = m * 2 ^ k := by
  obtain ⟨m, whole⟩ := two_pow_spacing_dvd fits
  have nonzero : size ≠ 0 := by omega
  have log : size.log2 = 23 + spacing 24 size := by
    have least := (Nat.le_log2 nonzero).mpr large
    rw [spacing]
    omega
  obtain ⟨least, greatest⟩ := (Nat.log2_eq_iff nonzero).mp log
  rw [Nat.add_right_comm, Nat.pow_add] at greatest
  rw [Nat.pow_add] at least
  rw [Nat.mul_comm] at whole
  have positive := Nat.two_pow_pos (spacing 24 size)
  refine ⟨m, spacing 24 size, ?_, ?_, whole⟩
  · exact Nat.le_of_mul_le_mul_right (least.trans_eq whole) positive
  · exact Nat.lt_of_mul_lt_mul_right (whole.symm.trans_lt greatest)

theorem encodes_ofSize (negative : Bool) (fits : Fits 24 size) (finite : size < limit) :
    Encodes negative size (ofSize negative size) := by
  rcases Nat.lt_or_ge size (2 ^ 23) with small | large
  · rw [ofSize_subnormal negative small]
    exact encodes_ofFields (by decide) small (if_pos rfl)
  · obtain ⟨m, k, least, greatest, rfl⟩ := exists_significand fits large
    have bound : k < 254 := by
      have below : 2 ^ 23 * 2 ^ k < 2 ^ 23 * 2 ^ 254 := (Nat.mul_le_mul_right _ least).trans_lt finite
      exact (Nat.pow_lt_pow_iff_right (by decide)).mp (Nat.lt_of_mul_lt_mul_left below)
    rw [ofSize_normal negative least greatest bound]
    refine encodes_ofFields (by omega) (by omega) ?_
    rw [if_neg k.succ_ne_zero, Nat.add_sub_of_le least, Nat.add_sub_cancel]

end Encoding

section Ratio

variable {n k : ℕ}

theorem encodes_ofRatio {v : ℤ} (small : v.natAbs < 2 ^ 24) (fine : k ≤ 149) :
    Encodes (decide (v < 0)) (v.natAbs * 2 ^ (149 - k)) (ofRatio v (2 ^ k)) := by
  have fits : Fits 24 (v.natAbs * 2 ^ (149 - k)) := ⟨v.natAbs, 149 - k, small, rfl⟩
  have finite : v.natAbs * 2 ^ (149 - k) < limit := by
    calc v.natAbs * 2 ^ (149 - k)
        < 2 ^ 24 * 2 ^ (149 - k) := Nat.mul_lt_mul_of_pos_right small (Nat.two_pow_pos _)
      _ ≤ 2 ^ 24 * 2 ^ 149 := Nat.mul_le_mul_left _ (Nat.pow_le_pow_right (by decide) (by omega))
      _ < limit := by decide
  have whole : v.natAbs * one = v.natAbs * 2 ^ (149 - k) * 2 ^ k := by
    rw [Nat.mul_assoc, ← Nat.pow_add, Nat.sub_add_cancel fine, one, Nat.one_shiftLeft]
  rw [ofRatio, nearest, whole, roundRatio_of_fits fits (Nat.two_pow_pos k)]
  exact encodes_ofSize _ fits finite

/-- A number of 2¹⁵ths, counted in levels of which there is one less. -/
theorem scaleSize_pred (positive : 0 < n) (inside : n ≤ 2 ^ 15) :
    scaleSize 24 32767 (n * 2 ^ 134) = n - 1 := by
  have upper : roundRatio 24 (n * 2 ^ 134 * 32767) 1 < n * 2 ^ 149 := by
    rcases Nat.lt_or_ge n (2 ^ 9) with few | many
    · -- The product has 24 bits at most, and is not rounded.
      calc roundRatio 24 (n * 2 ^ 134 * 32767) 1
          ≤ n * 32767 * 2 ^ 134 := roundRatio_le_of_fits ⟨n * 32767, 134, by omega, rfl⟩
            (by decide) Nat.one_pos (by omega)
        _ < n * 2 ^ 149 := by omega
    · -- The greatest number of 24 bits below the next level lies between.
      calc roundRatio 24 (n * 2 ^ 134 * 32767) 1
          ≤ (n * 2 ^ 9 - 1) * 2 ^ 140 := roundRatio_le_of_fits
            ⟨n * 2 ^ 9 - 1, 140, by omega, rfl⟩ (by decide) Nat.one_pos (by omega)
        _ < n * 2 ^ 149 := by omega
  have lower : (n - 1) * 2 ^ 149 ≤ roundRatio 24 (n * 2 ^ 134 * 32767) 1 :=
    le_roundRatio_of_fits ⟨n - 1, 149, by omega, rfl⟩ (by decide) Nat.one_pos (by omega)
  rw [scaleSize, one, Nat.one_shiftLeft]
  apply Nat.div_eq_of_lt_le lower
  rwa [Nat.sub_add_cancel positive]

/-- A sample of sixteen bits comes back one step nearer to zero. -/
theorem scale_ofRatio {v : ℤ} (inside : v.natAbs ≤ 2 ^ 15) :
    (ofRatio v 32768).clampUnit.scale 24 32767 = v - v.sign := by
  have encoded : Encodes (decide (v < 0)) (v.natAbs * 2 ^ 134) (ofRatio v 32768) :=
    encodes_ofRatio (k := 15) (by omega) (by decide)
  have unclamped : (ofRatio v 32768).clampUnit = ofRatio v 32768 := by
    rw [clampUnit_eq encoded.isNaN, encoded.size, one, Nat.one_shiftLeft]
    exact if_neg (by omega)
  rw [unclamped, scale_eq _ _ encoded.isNaN, encoded.isNegative, encoded.size]
  rcases lt_trichotomy v 0 with negative | rfl | positive
  · rw [scaleSize_pred (by omega) inside, Int.sign_eq_neg_one_of_neg negative,
      if_pos (decide_eq_true negative)]
    omega
  · rw [Int.natAbs_zero, Nat.zero_mul, scaleSize_zero]
    rfl
  · rw [scaleSize_pred (by omega) inside, Int.sign_eq_one_of_pos positive,
      if_neg (by simpa using positive.le)]
    omega

end Ratio

end Binary32

section Own

variable {f : Format}

theorem packSample_ofRatio (pcm : f.encoding = .pcm) (bits : f.bits = 16) {v : ℤ}
    (inside : v.natAbs ≤ 2 ^ 15) : packSample f (.ofRatio v 32768) = signedBytes 2 (v - v.sign) := by
  simp only [packSample, pcm, bits, if_true, Binary32.scale_ofRatio inside]

theorem packSamples_ofRatio (pcm : f.encoding = .pcm) (bits : f.bits = 16) (samples : List Int16) :
    packSamples f ((samples.map Int16.toInt).map fun v => .ofRatio v 32768) =
      samples.flatMap fun v => signedBytes 2 (v.toInt - v.toInt.sign) := by
  have packed (v : Int16) : packSample f (.ofRatio v.toInt 32768) =
      signedBytes 2 (v.toInt - v.toInt.sign) := by
    have least := v.le_toInt
    have greatest := v.toInt_lt
    exact packSample_ofRatio pcm bits (by omega)
  simp only [packSamples, List.flatMap_map, packed]

theorem packSamples_float (float : f.encoding = .float) {samples : List Binary32}
    (inside : ∀ x ∈ samples, x.isNaN = false ∧ ((-1 : ℚ) : WithBotTop ℚ) ≤ x.extended ∧
      x.extended ≤ ((1 : ℚ) : WithBotTop ℚ)) :
    packSamples f samples = samples.flatMap fun x => bytesOf 4 x.bits.toNat := by
  apply List.flatMap_congr
  intro x among
  obtain ⟨number, least, greatest⟩ := inside x among
  exact (packSample_float float number).1 least greatest

end Own

end PairedAudio.Audio
