import PairedAudio.Proofs.Samples.Rounding
import Mathlib.Algebra.Order.Field.Rat
import Mathlib.Order.WithBotTop
import Mathlib.Tactic.FieldSimp
import Mathlib.Tactic.NormNum
import Mathlib.Tactic.Positivity
import Mathlib.Tactic.Ring

/-! What the bits of a number stand for.

The rational number is given by sign, exponent and fraction as the format lays them down; infinities are
the ends of the line. Sizes count least positive numbers, so they order numbers as their values do, and
cutting a number off at -1 and 1 is cutting off its size.
-/

set_option autoImplicit false

namespace PairedAudio.Audio.Binary32

def magnitude (x : Binary32) : ℚ :=
  if x.exponent = 0 then (x.fraction : ℚ) / 2 ^ 23 * 2 ^ (-126 : ℤ)
  else (1 + (x.fraction : ℚ) / 2 ^ 23) * 2 ^ ((x.exponent : ℤ) - 127)

def value (x : Binary32) : ℚ := if x.isNegative then -x.magnitude else x.magnitude

/-- Where a number lies on the rational line with both its ends. -/
def extended (x : Binary32) : WithBotTop ℚ :=
  if x.isInfinite then if x.isNegative then ⊥ else ⊤ else x.value

def clamped (x : Binary32) : ℚ :=
  if x.isInfinite then if x.isNegative then -1 else 1 else max (-1) (min 1 x.value)

def neg (x : Binary32) : Binary32 := ⟨x.bits ^^^ 0x80000000⟩

section Size

variable (x : Binary32)

theorem fraction_lt : x.fraction < 2 ^ 23 := Nat.mod_lt _ (by decide)

theorem exponent_lt : x.exponent < 256 := Nat.mod_lt _ (by decide)

theorem size_eq : x.size = if x.exponent = 0 then x.fraction
    else (2 ^ 23 + x.fraction) * 2 ^ (x.exponent - 1) := by
  simp only [size, Nat.shiftLeft_eq]
  rfl

theorem size_fits : Fits 24 x.size := by
  have small := x.fraction_lt
  rw [size_eq]
  split
  · exact ⟨x.fraction, 0, by omega, (Nat.mul_one _).symm⟩
  · exact ⟨2 ^ 23 + x.fraction, x.exponent - 1, by omega, rfl⟩

theorem one_eq : (one : ℚ) = 2 ^ 149 := by
  norm_num [one, Nat.shiftLeft_eq]

theorem magnitude_eq : x.magnitude = (x.size : ℚ) / 2 ^ 149 := by
  rw [magnitude, size_eq]
  cases x.exponent with
  | zero =>
    simp only [if_true]
    rw [zpow_neg, div_mul_eq_mul_div, div_eq_div_iff (by positivity) (by positivity),
      mul_assoc]
    norm_num
  | succ e =>
    have split : (2 : ℚ) ^ (((e + 1 : ℕ) : ℤ) - 127) = 2 ^ e / 2 ^ 126 := by
      rw [show ((e + 1 : ℕ) : ℤ) - 127 = (e : ℤ) - (126 : ℕ) by push_cast; ring,
        zpow_sub₀ two_ne_zero, zpow_natCast, zpow_natCast]
    simp only [Nat.succ_ne_zero, if_false, Nat.add_sub_cancel]
    rw [split]
    push_cast
    field_simp
    norm_num

theorem value_eq : x.value = (x.signedSize : ℚ) / 2 ^ 149 := by
  rw [value, signedSize, magnitude_eq]
  split
  · rw [Int.cast_neg, Int.cast_natCast, neg_div]
  · rw [Int.cast_natCast]

def limit : ℕ := 2 ^ 23 * 2 ^ 254

theorem size_of_isInfinite (infinite : x.isInfinite = true) : x.size = limit := by
  simp only [isInfinite, Bool.and_eq_true, beq_iff_eq] at infinite
  rw [size_eq, infinite.1, infinite.2]
  rfl

theorem size_lt (number : x.isNaN = false) (finite : x.isInfinite = false) : x.size < limit := by
  have exponent : x.exponent ≤ 254 := by
    have bound := x.exponent_lt
    have greatest : x.exponent ≠ 255 := by
      intro greatest
      simp only [isNaN, isInfinite, greatest] at number finite
      cases zero : x.fraction == 0 <;> simp_all
    omega
  have small := x.fraction_lt
  rw [size_eq]
  split
  · exact small.trans (by decide)
  · calc (2 ^ 23 + x.fraction) * 2 ^ (x.exponent - 1)
        < 2 ^ 24 * 2 ^ (x.exponent - 1) := Nat.mul_lt_mul_of_pos_right (by omega) (Nat.two_pow_pos _)
      _ ≤ 2 ^ 24 * 2 ^ 253 := Nat.mul_le_mul_left _ (Nat.pow_le_pow_right (by decide) (by omega))
      _ = limit := rfl

end Size

theorem limit_pos : 0 < limit := by decide

section Order

variable {x y : Binary32}

inductive Kind (x : Binary32) : Prop
  | least (extended : x.extended = ⊥) (clamped : x.clamped = -1) (size : x.signedSize = -limit)
  | greatest (extended : x.extended = ⊤) (clamped : x.clamped = 1) (size : x.signedSize = limit)
  | finite (extended : x.extended = x.value)
      (clamped : x.clamped = max (-1) (min 1 x.value))
      (above : -limit < x.signedSize) (below : x.signedSize < limit)

theorem kind (number : x.isNaN = false) : Kind x := by
  cases infinite : x.isInfinite with
  | true =>
    have size := x.size_of_isInfinite infinite
    cases negative : x.isNegative with
    | true =>
      refine .least ?_ ?_ ?_ <;> simp [extended, clamped, signedSize, infinite, negative, size]
    | false =>
      refine .greatest ?_ ?_ ?_ <;> simp [extended, clamped, signedSize, infinite, negative, size]
  | false =>
    have size := x.size_lt number infinite
    have bounds : -limit < x.signedSize ∧ x.signedSize < limit := by
      rw [signedSize]
      split <;> omega
    exact .finite (by simp [extended, infinite]) (by simp [clamped, infinite]) bounds.1 bounds.2

theorem value_le_iff : x.value ≤ y.value ↔ x.signedSize ≤ y.signedSize := by
  rw [value_eq, value_eq, div_le_div_iff_of_pos_right (by positivity), Int.cast_le]

theorem extended_le_iff (first : x.isNaN = false) (second : y.isNaN = false) :
    x.extended ≤ y.extended ↔ x.signedSize ≤ y.signedSize := by
  have positive := limit_pos
  cases kind first with
  | least left _ size =>
    rw [left, size]
    refine iff_of_true bot_le ?_
    cases kind second <;> omega
  | greatest left _ size =>
    rw [left, size]
    cases kind second with
    | least right _ size' =>
      rw [right, size']
      exact iff_of_false (by simp) (by omega)
    | greatest right _ size' => rw [right, size']; simp
    | finite right _ above below =>
      rw [right]
      exact iff_of_false (by simp) (by omega)
  | finite left _ above below =>
    rw [left]
    cases kind second with
    | least right _ size' =>
      rw [right, size']
      exact iff_of_false (by simp) (by omega)
    | greatest right _ size' =>
      rw [right, size']
      exact iff_of_true (by simp) below.le
    | finite right => rw [right, WithBotTop.coe_le_coe, value_le_iff]

end Order

section Sign

variable (x : Binary32)

theorem toNat_neg : x.neg.bits.toNat = x.bits.toNat ^^^ 2 ^ 31 := UInt32.toNat_xor _ _

theorem fraction_neg : x.neg.fraction = x.fraction := by
  have low : x.neg.bits.toNat % 2 ^ 23 = x.bits.toNat % 2 ^ 23 := by
    rw [toNat_neg, Nat.xor_mod_two_pow]
    exact Nat.xor_zero _
  exact low

theorem exponent_neg : x.neg.exponent = x.exponent := by
  have middle : x.neg.bits.toNat / 2 ^ 23 % 2 ^ 8 = x.bits.toNat / 2 ^ 23 % 2 ^ 8 := by
    rw [toNat_neg, ← Nat.shiftRight_eq_div_pow, Nat.shiftRight_xor_distrib, Nat.xor_mod_two_pow,
      Nat.shiftRight_eq_div_pow]
    exact Nat.xor_zero _
  exact middle

theorem isNegative_eq : x.isNegative = x.bits.toNat.testBit 31 := by
  have bound : x.bits.toNat < 2 ^ 32 := x.bits.toNat_lt
  rw [isNegative, Nat.testBit_eq_decide_div_mod_eq]
  apply decide_eq_decide.mpr
  rw [UInt32.le_iff_toNat_le, show (0x80000000 : UInt32).toNat = 2 ^ 31 from rfl]
  omega

theorem isNegative_neg : x.neg.isNegative = !x.isNegative := by
  rw [isNegative_eq, isNegative_eq, toNat_neg, Nat.testBit_xor, Nat.testBit_two_pow_self, Bool.xor_true]

theorem isNaN_neg : x.neg.isNaN = x.isNaN := by
  rw [isNaN, isNaN, exponent_neg, fraction_neg]

theorem size_neg : x.neg.size = x.size := by
  rw [size, size, exponent_neg, fraction_neg]

end Sign

section Clamp

variable {x : Binary32}

def unit (negative : Bool) : Binary32 := ⟨if negative then 0xbf800000 else 0x3f800000⟩

theorem signedSize_unit (negative : Bool) :
    (unit negative).signedSize = if negative then -(one : ℤ) else one := by
  cases negative <;> decide

theorem value_unit (negative : Bool) : (unit negative).value = if negative then -1 else 1 := by
  rw [value_eq, signedSize_unit]
  cases negative <;> simp [one_eq]

theorem clampUnit_eq (number : x.isNaN = false) :
    x.clampUnit = if one < x.size then unit x.isNegative else x := by
  rw [clampUnit, number]
  rfl

theorem isNaN_unit (negative : Bool) : (unit negative).isNaN = false := by
  cases negative <;> rfl

theorem extended_unit (negative : Bool) :
    (unit negative).extended = ((if negative then -1 else 1 : ℚ) : WithBotTop ℚ) := by
  have finite : (unit negative).isInfinite = false := by cases negative <;> rfl
  rw [extended, finite, value_unit]
  rfl

theorem unit_le_iff (number : x.isNaN = false) (negative : Bool) :
    ((if negative then -1 else 1 : ℚ) : WithBotTop ℚ) ≤ x.extended ↔
      (if negative then -(one : ℤ) else one) ≤ x.signedSize := by
  rw [← extended_unit, extended_le_iff (isNaN_unit negative) number, signedSize_unit]

theorem le_unit_iff (number : x.isNaN = false) (negative : Bool) :
    x.extended ≤ ((if negative then -1 else 1 : ℚ) : WithBotTop ℚ) ↔
      x.signedSize ≤ if negative then -(one : ℤ) else one := by
  rw [← extended_unit, extended_le_iff number (isNaN_unit negative), signedSize_unit]

/-- A number beyond an end is moved to that end, and any other stays. -/
inductive Clamping (x : Binary32) : Prop
  | below (beyond : x.extended < ((-1 : ℚ) : WithBotTop ℚ)) (moved : x.clampUnit = unit true)
  | above (beyond : ((1 : ℚ) : WithBotTop ℚ) < x.extended) (moved : x.clampUnit = unit false)
  | within (least : ((-1 : ℚ) : WithBotTop ℚ) ≤ x.extended)
      (greatest : x.extended ≤ ((1 : ℚ) : WithBotTop ℚ)) (stays : x.clampUnit = x)

theorem clamping (number : x.isNaN = false) : Clamping x := by
  have least : ((-1 : ℚ) : WithBotTop ℚ) ≤ x.extended ↔ -(one : ℤ) ≤ x.signedSize :=
    unit_le_iff number true
  have greatest : x.extended ≤ ((1 : ℚ) : WithBotTop ℚ) ↔ x.signedSize ≤ one :=
    le_unit_iff number false
  have clamp := clampUnit_eq number
  cases negative : x.isNegative with
  | true =>
    have size : x.signedSize = -x.size := by rw [signedSize, if_pos negative]
    split at clamp
    · exact .below (not_le.mp (least.not.mpr (by omega))) (by rw [clamp, negative])
    · exact .within (least.mpr (by omega)) (greatest.mpr (by omega)) clamp
  | false =>
    have size : x.signedSize = x.size := by rw [signedSize, if_neg (by rw [negative]; decide)]
    split at clamp
    · exact .above (not_le.mp (greatest.not.mpr (by omega))) (by rw [clamp, negative])
    · exact .within (least.mpr (by omega)) (greatest.mpr (by omega)) clamp

theorem isNaN_clampUnit (x : Binary32) : x.clampUnit.isNaN = x.isNaN := by
  cases number : x.isNaN with
  | true => rw [clampUnit, if_pos number, number]
  | false =>
    cases clamping number with
    | below _ moved | above _ moved => rw [moved, isNaN_unit]
    | within _ _ stays => rw [stays, number]

theorem signedSize_clampUnit (number : x.isNaN = false) :
    x.clampUnit.signedSize = max (-(one : ℤ)) (min one x.signedSize) := by
  rw [clampUnit_eq number]
  split
  · rw [signedSize_unit, signedSize]
    split <;> omega
  · rw [signedSize]
    split <;> omega

theorem size_clampUnit_le (number : x.isNaN = false) : x.clampUnit.size ≤ one := by
  rw [clampUnit_eq number]
  split
  · cases x.isNegative <;> decide
  · omega

theorem value_clampUnit (number : x.isNaN = false) : x.clampUnit.value = x.clamped := by
  cases kind number with
  | least lies clamped =>
    cases clamping number with
    | below _ moved => rw [clamped, moved, value_unit]; rfl
    | above beyond => simp [lies] at beyond
    | within least => simp [lies] at least
  | greatest lies clamped =>
    cases clamping number with
    | above _ moved => rw [clamped, moved, value_unit]; rfl
    | below beyond => simp [lies] at beyond
    | within _ greatest =>
      rw [lies] at greatest
      exact absurd (WithBot.coe_le_coe.mp greatest) (WithTop.coe_lt_top 1).not_ge
  | finite lies clamped =>
    rw [clamped]
    cases clamping number with
    | below beyond moved =>
      rw [lies, WithBotTop.coe_lt_coe] at beyond
      rw [moved, value_unit, max_eq_left (min_le_of_right_le beyond.le)]
      rfl
    | above beyond moved =>
      rw [lies, WithBotTop.coe_lt_coe] at beyond
      rw [moved, value_unit, min_eq_left beyond.le, max_eq_right (by norm_num)]
      rfl
    | within least greatest stays =>
      rw [lies, WithBotTop.coe_le_coe] at least greatest
      rw [stays, min_eq_right greatest, max_eq_right least]

theorem clampUnit_neg (x : Binary32) : x.neg.clampUnit = x.clampUnit.neg := by
  cases number : x.isNaN with
  | true =>
    rw [clampUnit, clampUnit, if_pos number, isNaN_neg, if_pos number]
  | false =>
    rw [clampUnit_eq number, clampUnit_eq ((isNaN_neg x).trans number), size_neg, isNegative_neg]
    split
    · cases x.isNegative <;> rfl
    · rfl

end Clamp

end PairedAudio.Audio.Binary32
