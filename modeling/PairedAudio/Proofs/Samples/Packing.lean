import PairedAudio.Proofs.Samples.Numbers
import PairedAudio.Proofs.Period
import PairedAudio.Proofs.Unbroken
import Mathlib.Data.Rat.Floor

/-! Packing samples.

Samples are packed one by one, each into as many bytes as the format has for it. Integer formats read
back as levels that follow the order of the samples, up to the greatest level and down to its negative;
with 24 bits nothing is rounded before the fraction is cut off. Float formats keep a sample that lies
between -1 and 1.
-/

set_option autoImplicit false

namespace PairedAudio.Audio

open Wire (bytesOf signedBytes signedValue signedValue_signedBytes valueCount)

def truncate (q : ℚ) : ℤ := if 0 ≤ q then ⌊q⌋ else ⌈q⌉

theorem truncate_neg (q : ℚ) : truncate (-q) = -truncate q := by
  rcases lt_trichotomy q 0 with negative | rfl | positive
  · rw [truncate, truncate, if_pos (by linarith), if_neg (by linarith), Int.floor_neg]
  · simp [truncate]
  · rw [truncate, truncate, if_neg (by linarith), if_pos positive.le, Int.ceil_neg]

theorem truncate_div (n d : ℕ) : truncate ((n : ℚ) / d) = (n / d : ℕ) := by
  rw [truncate, if_pos (by positivity), Rat.floor_natCast_div_natCast, Int.natCast_ediv]

namespace Binary32

section Scale

variable {precision top : ℕ}

def scaleSize (precision top size : ℕ) : ℕ := roundRatio precision (size * top) 1 / one

theorem scale_eq (precision top : ℕ) {x : Binary32} (number : x.isNaN = false) :
    x.scale precision top =
      if x.isNegative then -(scaleSize precision top x.size : ℤ) else scaleSize precision top x.size := by
  rw [scale, number]
  rfl

theorem scale_of_isNaN (precision top : ℕ) {x : Binary32} (nan : x.isNaN = true) :
    x.scale precision top = 0 := if_pos nan

theorem scale_neg (precision top : ℕ) (x : Binary32) :
    x.neg.scale precision top = -x.scale precision top := by
  cases number : x.isNaN with
  | true => rw [scale_of_isNaN _ _ number, scale_of_isNaN _ _ (x.isNaN_neg.trans number), neg_zero]
  | false =>
    rw [scale_eq _ _ number, scale_eq _ _ (x.isNaN_neg.trans number), isNegative_neg, size_neg]
    cases x.isNegative <;> simp

theorem scaleSize_of_fits {size : ℕ} (fits : Fits precision (size * top)) :
    scaleSize precision top size = size * top / one := by
  have rounded := roundRatio_of_fits fits Nat.one_pos
  rw [Nat.mul_one] at rounded
  rw [scaleSize, rounded]

theorem scaleSize_mono (some : 0 < precision) {size size' : ℕ} (le : size ≤ size') :
    scaleSize precision top size ≤ scaleSize precision top size' :=
  Nat.div_le_div_right (roundRatio_mono some Nat.one_pos (Nat.mul_le_mul_right top le))

theorem scaleSize_one (precise : top < 2 ^ precision) : scaleSize precision top one = top := by
  have fits : Fits precision (one * top) :=
    ⟨top, 149, precise, by rw [one, Nat.one_shiftLeft, Nat.mul_comm]⟩
  rw [scaleSize_of_fits fits, Nat.mul_div_cancel_left top (by decide)]

theorem scaleSize_zero (precision top : ℕ) : scaleSize precision top 0 = 0 := by
  have fits : Fits precision (0 * top) := by
    rw [Nat.zero_mul]
    exact .zero precision
  rw [scaleSize_of_fits fits, Nat.zero_mul, Nat.zero_div]

theorem scale_mono (some : 0 < precision) {x y : Binary32} (first : x.isNaN = false)
    (second : y.isNaN = false) (le : x.signedSize ≤ y.signedSize) :
    x.scale precision top ≤ y.scale precision top := by
  cases sign : x.isNegative <;> cases sign' : y.isNegative <;>
    simp only [signedSize, scale_eq _ _ first, scale_eq _ _ second, sign, sign', if_true, if_false,
      Bool.false_eq_true] at le ⊢
  · exact Int.ofNat_le.mpr (scaleSize_mono some (Int.ofNat_le.mp le))
  · -- Of a number that is not negative and one that is, only zeros are in this order.
    obtain ⟨none, none'⟩ : x.size = 0 ∧ y.size = 0 := by omega
    rw [none, none', scaleSize_zero, Int.natCast_zero, neg_zero]
  · omega
  · exact neg_le_neg (Int.ofNat_le.mpr (scaleSize_mono some (by omega)))

theorem abs_scale_le (some : 0 < precision) (precise : top < 2 ^ precision) {x : Binary32}
    (number : x.isNaN = false) (small : x.size ≤ one) : |x.scale precision top| ≤ top := by
  have below : scaleSize precision top x.size ≤ top :=
    (scaleSize_mono some small).trans_eq (scaleSize_one precise)
  rw [scale_eq _ _ number, abs_le]
  split <;> omega

/-- Where the product has few enough significant bits, nothing but the fraction is lost. -/
theorem scale_exact {x : Binary32} (number : x.isNaN = false) (fits : Fits precision (x.size * top)) :
    x.scale precision top = truncate (x.value * top) := by
  have unsigned : truncate (x.magnitude * top) = scaleSize precision top x.size := by
    rw [scaleSize_of_fits fits, magnitude_eq, ← truncate_div, one_eq, Nat.cast_mul, div_mul_eq_mul_div]
  rw [scale_eq _ _ number, value]
  split
  · rw [neg_mul, truncate_neg, unsigned]
  · exact unsigned.symm

end Scale

end Binary32

section Levels

variable {f : Format}

def Format.top (f : Format) : ℕ := 2 ^ (f.bits.toNat - 1) - 1

/-- The significant bits of the product with the greatest level. -/
def Format.precision (f : Format) : ℕ := if f.bits = 16 then 24 else 53

def Format.level (f : Format) (x : Binary32) : ℤ := signedValue (packSample f x)

theorem packSample_pcm (valid : f.validate = .ok ()) (pcm : f.encoding = .pcm) (x : Binary32) :
    packSample f x = signedBytes f.bytesPerSample (x.clampUnit.scale f.precision f.top) := by
  obtain ⟨-, ⟨float, -⟩ | ⟨-, bits | bits | bits⟩⟩ := f.valid_parts valid
  · cases pcm.symm.trans float
  all_goals
    simp only [packSample, pcm, bits, Format.precision, Format.top, Format.bytesPerSample]
    rfl

theorem top_lt (valid : f.validate = .ok ()) (pcm : f.encoding = .pcm) :
    f.top < 2 ^ f.precision ∧ 2 * f.top < valueCount f.bytesPerSample := by
  obtain ⟨-, ⟨float, -⟩ | ⟨-, bits | bits | bits⟩⟩ := f.valid_parts valid
  · cases pcm.symm.trans float
  all_goals
    simp only [Format.top, Format.precision, Format.bytesPerSample, bits]
    decide

theorem precision_pos (f : Format) : 0 < f.precision := by
  rw [Format.precision]
  split <;> decide

theorem abs_scale_clampUnit_le (valid : f.validate = .ok ()) (pcm : f.encoding = .pcm)
    (x : Binary32) : |x.clampUnit.scale f.precision f.top| ≤ f.top := by
  cases number : x.isNaN with
  | true =>
    rw [Binary32.scale_of_isNaN _ _ (x.isNaN_clampUnit.trans number), abs_zero]
    exact Int.natCast_nonneg _
  | false =>
    exact Binary32.abs_scale_le (precision_pos f) (top_lt valid pcm).1
      (x.isNaN_clampUnit.trans number) (Binary32.size_clampUnit_le number)

/-- Full scale fits into the bytes of a sample, so no level wraps round to the other sign. -/
theorem level_eq (valid : f.validate = .ok ()) (pcm : f.encoding = .pcm) (x : Binary32) :
    f.level x = x.clampUnit.scale f.precision f.top := by
  have bounds := abs_le.mp (abs_scale_clampUnit_le valid pcm x)
  have fits := (top_lt valid pcm).2
  rw [Format.level, packSample_pcm valid pcm, signedValue_signedBytes]
  exact Int.bmod_eq_of_le_mul_two (by omega) (by omega)

theorem level_mono (valid : f.validate = .ok ()) (pcm : f.encoding = .pcm) {x y : Binary32}
    (first : x.isNaN = false) (second : y.isNaN = false) (le : x.extended ≤ y.extended) :
    f.level x ≤ f.level y := by
  have sizes := (Binary32.extended_le_iff first second).mp le
  rw [level_eq valid pcm, level_eq valid pcm]
  apply Binary32.scale_mono (precision_pos f) (x.isNaN_clampUnit.trans first)
    (y.isNaN_clampUnit.trans second)
  rw [Binary32.signedSize_clampUnit first, Binary32.signedSize_clampUnit second]
  omega

/-- A product of 24 significant bits and 23 is not rounded to 53. -/
theorem level_exact (valid : f.validate = .ok ()) (pcm : f.encoding = .pcm) (bits : f.bits = 24)
    {x : Binary32} (number : x.isNaN = false) :
    f.level x = truncate (x.clamped * (2 ^ 23 - 1)) := by
  have top : f.top = 2 ^ 23 - 1 := by rw [Format.top, bits]; rfl
  have precision : f.precision = 53 := by rw [Format.precision, bits]; rfl
  have few : Fits 23 f.top := ⟨f.top, 0, by rw [top]; decide, (Nat.mul_one _).symm⟩
  have fits : Fits f.precision (x.clampUnit.size * f.top) := by
    rw [precision]
    exact (x.clampUnit.size_fits.mul few).mono (by decide)
  rw [level_eq valid pcm, Binary32.scale_exact (x.isNaN_clampUnit.trans number) fits,
    Binary32.value_clampUnit number, top]
  norm_num

theorem packSample_float (float : f.encoding = .float) {x : Binary32} (number : x.isNaN = false) :
    (((-1 : ℚ) : WithBotTop ℚ) ≤ x.extended → x.extended ≤ ((1 : ℚ) : WithBotTop ℚ) →
      packSample f x = bytesOf 4 x.bits.toNat) ∧
    (x.extended < ((-1 : ℚ) : WithBotTop ℚ) → packSample f x = bytesOf 4 0xbf800000) ∧
    (((1 : ℚ) : WithBotTop ℚ) < x.extended → packSample f x = bytesOf 4 0x3f800000) := by
  have packed : packSample f x = bytesOf 4 x.clampUnit.bits.toNat := by simp only [packSample, float]
  have order : ((-1 : ℚ) : WithBotTop ℚ) ≤ ((1 : ℚ) : WithBotTop ℚ) :=
    WithBotTop.coe_le_coe.mpr (by norm_num)
  cases Binary32.clamping number with
  | below beyond moved =>
    rw [moved] at packed
    exact ⟨fun least => absurd beyond least.not_gt, fun _ => packed,
      fun above => absurd (above.trans beyond) order.not_gt⟩
  | above beyond moved =>
    rw [moved] at packed
    exact ⟨fun _ greatest => absurd beyond greatest.not_gt,
      fun below => absurd (beyond.trans below) order.not_gt, fun _ => packed⟩
  | within least greatest stays =>
    rw [stays] at packed
    exact ⟨fun _ _ => packed, fun below => absurd below least.not_gt,
      fun above => absurd above greatest.not_gt⟩

end Levels

section Sound

variable {f : Format}

theorem slice_appendSamples (valid : f.validate = .ok ()) {samples : List Binary32}
    (buffer : List UInt8) {i : ℕ} (inside : i < samples.length) :
    ((appendSamples f samples buffer).drop (buffer.length + i * f.bytesPerSample)).take
      f.bytesPerSample = packSample f samples[i] := by
  have parts : samples = samples.take i ++ samples[i] :: samples.drop (i + 1) := by simp
  have front : (packSamples f (samples.take i)).length = i * f.bytesPerSample := by
    rw [length_packSamples valid, List.length_take_of_le inside.le]
  have packed : packSamples f samples = packSamples f (samples.take i) ++
      (packSample f samples[i] ++ packSamples f (samples.drop (i + 1))) := by
    conv_lhs => rw [parts]
    exact packSamples_append f _ _
  rw [appendSamples, packed, ← front, ← List.length_append, ← List.append_assoc, List.drop_left,
    List.take_left' (length_packSample valid _)]

/-- For every float, in every valid format and behind whatever a buffer holds: the buffer is kept, and
each sample adds as many bytes as the format has for one, which depend on nothing else. In an integer
format they are a level within full scale, zero for what is no number and opposite for the opposite
number, in the order of the samples; with 24 bits it is the clamped sample times the greatest level,
without the fraction. In a float format they are the sample's own if it lies between -1 and 1, and
those of the nearer end if it does not. -/
theorem packs_every_float (valid : f.validate = .ok ()) (samples : List Binary32) (buffer : List UInt8) :
    (buffer <+: appendSamples f samples buffer ∧
      (appendSamples f samples buffer).length = buffer.length + samples.length * f.bytesPerSample ∧
      ∀ (i : ℕ) (inside : i < samples.length),
        ((appendSamples f samples buffer).drop (buffer.length + i * f.bytesPerSample)).take
          f.bytesPerSample = packSample f samples[i]) ∧
    (f.encoding = .pcm →
      (∀ x, |f.level x| ≤ 2 ^ (f.bits.toNat - 1) - 1) ∧
      (∀ x, x.isNaN = true → f.level x = 0) ∧
      (∀ x, f.level x.neg = -f.level x) ∧
      (∀ x y, x.isNaN = false → y.isNaN = false → x.extended ≤ y.extended → f.level x ≤ f.level y) ∧
      (f.bits = 24 → ∀ x, x.isNaN = false → f.level x = truncate (x.clamped * (2 ^ 23 - 1)))) ∧
    (f.encoding = .float → ∀ x, x.isNaN = false →
      (((-1 : ℚ) : WithBotTop ℚ) ≤ x.extended → x.extended ≤ ((1 : ℚ) : WithBotTop ℚ) →
        packSample f x = bytesOf 4 x.bits.toNat) ∧
      (x.extended < ((-1 : ℚ) : WithBotTop ℚ) → packSample f x = bytesOf 4 0xbf800000) ∧
      (((1 : ℚ) : WithBotTop ℚ) < x.extended → packSample f x = bytesOf 4 0x3f800000)) := by
  refine ⟨⟨List.prefix_append _ _, ?_, fun i inside => slice_appendSamples valid buffer inside⟩,
    fun pcm => ?_, fun float x number => ?_⟩
  · rw [appendSamples, List.length_append, length_packSamples valid]
  · have scaled := level_eq valid pcm
    refine ⟨fun x => ?_, fun x nan => ?_, fun x => ?_, fun x y first second le => ?_,
      fun bits x number => level_exact valid pcm bits number⟩
    · have full : (f.top : ℤ) = 2 ^ (f.bits.toNat - 1) - 1 := by
        rw [Format.top, Nat.cast_sub Nat.one_le_two_pow]
        norm_num
      rw [scaled, ← full]
      exact abs_scale_clampUnit_le valid pcm x
    · rw [scaled, Binary32.scale_of_isNaN _ _ (x.isNaN_clampUnit.trans nan)]
    · rw [scaled, scaled, Binary32.clampUnit_neg, Binary32.scale_neg]
    · exact level_mono valid pcm first second le
  · exact packSample_float float number

/-- No number, a half, and both infinities. -/
theorem packs_every_float_half :
    let f : Format := ⟨.pcm, 24, 48000⟩
    ((appendSamples f [⟨0x7fc00000⟩, ⟨0x3f000000⟩] [9]).drop 4).take 3 = packSample f ⟨0x3f000000⟩ ∧
    f.level ⟨0x7fc00000⟩ = 0 ∧ f.level ⟨0xff800000⟩ ≤ f.level ⟨0x3f000000⟩ ∧
    f.level ⟨0x3f000000⟩ = truncate ((⟨0x3f000000⟩ : Binary32).clamped * (2 ^ 23 - 1)) ∧
    packSample ⟨.float, 32, 48000⟩ ⟨0x7f800000⟩ = bytesOf 4 0x3f800000 := by
  intro f
  have valid : f.validate = .ok () := rfl
  obtain ⟨⟨-, -, slice⟩, levels, -⟩ :=
    packs_every_float valid [⟨0x7fc00000⟩, ⟨0x3f000000⟩] [9]
  obtain ⟨-, none, -, ordered, exact⟩ := levels rfl
  obtain ⟨-, -, floats⟩ := packs_every_float (f := ⟨.float, 32, 48000⟩) rfl [] []
  have three : f.bytesPerSample = 3 := by decide
  have second := slice 1 (by decide)
  rw [three] at second
  have order : (⟨0xff800000⟩ : Binary32).extended ≤ (⟨0x3f000000⟩ : Binary32).extended :=
    (Binary32.extended_le_iff rfl rfl).mpr (by decide)
  have beyond : ((1 : ℚ) : WithBotTop ℚ) < (⟨0x7f800000⟩ : Binary32).extended :=
    WithBot.coe_lt_coe.mpr (WithTop.coe_lt_top 1)
  exact ⟨second, none _ rfl, ordered _ _ rfl rfl order, exact rfl _ rfl,
    (floats rfl _ rfl).2.2 beyond⟩

end Sound

end PairedAudio.Audio
