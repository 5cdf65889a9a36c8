import PairedAudio.Audio.Binary32
import Mathlib.Algebra.Order.Group.Nat

/-! Rounding to a number of significant bits.

Two facts about it carry everything that is said of samples. It keeps the order of what it rounds, also
across a power of two, where the spacing of the rounded numbers changes. And it leaves a number alone
that has few enough significant bits.
-/

set_option autoImplicit false

namespace PairedAudio.Audio

variable {n m d : Nat}

theorem roundHalfEven_mono (le : n ≤ m) : roundHalfEven n d ≤ roundHalfEven m d := by
  have quotients : n / d ≤ m / d := Nat.div_le_div_right le
  simp only [roundHalfEven]
  rcases quotients.lt_or_eq with less | same
  · -- Rounding adds at most one to a quotient.
    split <;> split <;> omega
  · have remainders : n % d ≤ m % d := by
      have first := Nat.div_add_mod n d
      have second := Nat.div_add_mod m d
      rw [same] at first
      omega
    rw [same]
    split <;> split <;> omega

theorem roundHalfEven_mul (q : Nat) (positive : 0 < d) : roundHalfEven (q * d) d = q := by
  rw [roundHalfEven, Nat.mul_div_cancel q positive, Nat.mul_mod_left]
  exact if_pos (.inl positive)

def Fits (precision w : Nat) : Prop := ∃ m k, m < 2 ^ precision ∧ w = m * 2 ^ k

theorem Fits.zero (precision : Nat) : Fits precision 0 :=
  ⟨0, 0, Nat.two_pow_pos precision, rfl⟩

theorem Fits.mul {p q v w : Nat} (first : Fits p v) (second : Fits q w) : Fits (p + q) (v * w) := by
  obtain ⟨m, k, small, rfl⟩ := first
  obtain ⟨m', k', small', rfl⟩ := second
  refine ⟨m * m', k + k', ?_, ?_⟩
  · rw [Nat.pow_add]
    exact Nat.mul_lt_mul'' small small'
  · rw [Nat.pow_add, Nat.mul_mul_mul_comm]

theorem Fits.mono {p q w : Nat} (fits : Fits p w) (le : p ≤ q) : Fits q w := by
  obtain ⟨m, k, small, whole⟩ := fits
  exact ⟨m, k, small.trans_le (Nat.pow_le_pow_right (by decide) le), whole⟩

section Precision

variable {precision k : Nat}

/-- The exponent of the spacing at a quotient. -/
def spacing (precision q : Nat) : Nat := q.log2 + 1 - precision

theorem roundRatio_eq (precision n d : Nat) :
    roundRatio precision n d =
      roundHalfEven n (d * 2 ^ spacing precision (n / d)) * 2 ^ spacing precision (n / d) := by
  simp only [roundRatio, spacing, Nat.one_shiftLeft]

theorem spacing_le (some : 0 < precision) {q : Nat} (less : q < 2 ^ (k + 1)) :
    spacing precision q ≤ k := by
  rcases Nat.eq_zero_or_pos q with rfl | positive
  · rw [spacing, Nat.log2_zero]
    omega
  · have bound := (Nat.log2_lt positive.ne').mpr less
    rw [spacing]
    omega

theorem two_pow_mul_eq {e : Nat} (le : e ≤ k) : 2 ^ k * d = 2 ^ (k - e) * (d * 2 ^ e) := by
  rw [Nat.mul_comm d, ← Nat.mul_assoc, ← Nat.pow_add, Nat.sub_add_cancel le]

theorem roundRatio_le_two_pow (some : 0 < precision) (positive : 0 < d) (less : n / d < 2 ^ k) :
    roundRatio precision n d ≤ 2 ^ k := by
  have narrow : spacing precision (n / d) ≤ k :=
    spacing_le some (less.trans_le (Nat.pow_le_pow_right (by decide) k.le_succ))
  have below : n ≤ 2 ^ k * d := ((Nat.div_lt_iff_lt_mul positive).mp less).le
  rw [two_pow_mul_eq narrow] at below
  have rounded := roundHalfEven_mono below (d := d * 2 ^ spacing precision (n / d))
  rw [roundHalfEven_mul _ (Nat.mul_pos positive (Nat.two_pow_pos _))] at rounded
  calc roundRatio precision n d
      ≤ 2 ^ (k - spacing precision (n / d)) * 2 ^ spacing precision (n / d) := by
        rw [roundRatio_eq]
        exact Nat.mul_le_mul_right _ rounded
    _ = 2 ^ k := by rw [← Nat.pow_add, Nat.sub_add_cancel narrow]

theorem two_pow_le_roundRatio (some : 0 < precision) (positive : 0 < d) (le : 2 ^ k ≤ n / d)
    (less : n / d < 2 ^ (k + 1)) : 2 ^ k ≤ roundRatio precision n d := by
  have narrow : spacing precision (n / d) ≤ k := spacing_le some less
  have above : 2 ^ k * d ≤ n := (Nat.le_div_iff_mul_le positive).mp le
  rw [two_pow_mul_eq narrow] at above
  have rounded := roundHalfEven_mono above (d := d * 2 ^ spacing precision (n / d))
  rw [roundHalfEven_mul _ (Nat.mul_pos positive (Nat.two_pow_pos _))] at rounded
  calc 2 ^ k = 2 ^ (k - spacing precision (n / d)) * 2 ^ spacing precision (n / d) := by
        rw [← Nat.pow_add, Nat.sub_add_cancel narrow]
    _ ≤ roundRatio precision n d := by
        rw [roundRatio_eq]
        exact Nat.mul_le_mul_right _ rounded

theorem roundRatio_mono (some : 0 < precision) (positive : 0 < d) (le : n ≤ m) :
    roundRatio precision n d ≤ roundRatio precision m d := by
  have quotients : n / d ≤ m / d := Nat.div_le_div_right le
  by_cases same : (n / d).log2 = (m / d).log2
  · rw [roundRatio_eq, roundRatio_eq, spacing, spacing, same]
    exact Nat.mul_le_mul_right _ (roundHalfEven_mono le)
  · have nonzero : m / d ≠ 0 := by
      intro zero
      rw [zero] at quotients
      exact same (by rw [Nat.le_zero.mp quotients, zero])
    -- The spacings differ, so a power of two lies between the quotients, and it stays between them.
    have across : n / d < 2 ^ (m / d).log2 := by
      refine Nat.not_le.mp fun above => same ?_
      have positive : n / d ≠ 0 := ((Nat.two_pow_pos _).trans_le above).ne'
      exact (Nat.log2_eq_iff positive).mpr ⟨above, quotients.trans_lt Nat.lt_log2_self⟩
    calc roundRatio precision n d ≤ 2 ^ (m / d).log2 := roundRatio_le_two_pow some positive across
      _ ≤ roundRatio precision m d :=
        two_pow_le_roundRatio some positive (Nat.log2_self_le nonzero) Nat.lt_log2_self

theorem two_pow_spacing_dvd {w : Nat} (fits : Fits precision w) : 2 ^ spacing precision w ∣ w := by
  obtain ⟨m, k, small, rfl⟩ := fits
  rcases Nat.eq_zero_or_pos m with rfl | positive
  · rw [Nat.zero_mul]
    exact Nat.dvd_zero _
  · have nonzero : m * 2 ^ k ≠ 0 := (Nat.mul_pos positive (Nat.two_pow_pos k)).ne'
    have log : (m * 2 ^ k).log2 < precision + k := by
      rw [Nat.log2_lt nonzero, Nat.pow_add]
      exact Nat.mul_lt_mul_of_pos_right small (Nat.two_pow_pos k)
    have narrow : spacing precision (m * 2 ^ k) ≤ k := by
      rw [spacing]
      omega
    exact Nat.dvd_trans (Nat.pow_dvd_pow 2 narrow) (Nat.dvd_mul_left _ m)

theorem roundRatio_of_fits {w : Nat} (fits : Fits precision w) (positive : 0 < d) :
    roundRatio precision (w * d) d = w := by
  obtain ⟨times, whole⟩ := two_pow_spacing_dvd fits
  have units : w * d = times * (d * 2 ^ spacing precision w) := by
    calc w * d = 2 ^ spacing precision w * times * d := by rw [← whole]
      _ = times * (d * 2 ^ spacing precision w) := by
        rw [Nat.mul_comm (2 ^ spacing precision w), Nat.mul_assoc, Nat.mul_comm d]
  rw [roundRatio_eq, Nat.mul_div_cancel w positive, units,
    roundHalfEven_mul times (Nat.mul_pos positive (Nat.two_pow_pos _)), Nat.mul_comm, ← whole]

theorem roundRatio_le_of_fits {w : Nat} (fits : Fits precision w) (some : 0 < precision)
    (positive : 0 < d) (le : n ≤ w * d) : roundRatio precision n d ≤ w :=
  (roundRatio_mono some positive le).trans_eq (roundRatio_of_fits fits positive)

theorem le_roundRatio_of_fits {w : Nat} (fits : Fits precision w) (some : 0 < precision)
    (positive : 0 < d) (le : w * d ≤ n) : w ≤ roundRatio precision n d :=
  (roundRatio_of_fits fits positive).symm.trans_le (roundRatio_mono some positive le)

end Precision

end PairedAudio.Audio
