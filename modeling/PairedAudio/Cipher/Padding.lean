/-! Padding to whole blocks: between one and sixteen bytes, each of them the number of bytes added.
Only the last byte is looked at when the padding is taken off. -/

set_option autoImplicit false

namespace PairedAudio.Cipher.Padding

def paddedLength (n : Nat) : Nat := (n / 16 + 1) * 16

def pad (plain : List UInt8) : List UInt8 :=
  let count := paddedLength plain.length - plain.length
  plain ++ List.replicate count (UInt8.ofNat count)

/-- How many bytes the last byte tells to take off, or that byte when it tells nothing usable. -/
def count? (padded : List UInt8) : Except UInt8 Nat :=
  let last := padded.getLastD 0
  if last = 0 ∨ 16 < last.toNat ∨ padded.length < last.toNat then .error last
  else .ok last.toNat

@[simp] theorem length_pad (plain : List UInt8) : (pad plain).length = paddedLength plain.length := by
  simp only [pad, paddedLength, List.length_append, List.length_replicate]
  omega

theorem count?_pad (plain : List UInt8) :
    count? (pad plain) = .ok (paddedLength plain.length - plain.length) := by
  have low : 0 < paddedLength plain.length - plain.length := by rw [paddedLength]; omega
  have high : paddedLength plain.length - plain.length ≤ 16 := by rw [paddedLength]; omega
  have length : (pad plain).length = paddedLength plain.length := length_pad plain
  have last : (pad plain).getLastD 0 = UInt8.ofNat (paddedLength plain.length - plain.length) := by
    obtain ⟨count, more⟩ : ∃ n, paddedLength plain.length - plain.length = n + 1 :=
      ⟨_, (Nat.sub_add_cancel low).symm⟩
    simp [pad, more, List.replicate_succ', List.getLastD_eq_getLast?]
  have value : (UInt8.ofNat (paddedLength plain.length - plain.length)).toNat =
      paddedLength plain.length - plain.length := by
    rw [UInt8.toNat_ofNat']
    omega
  have usable : ¬ (UInt8.ofNat (paddedLength plain.length - plain.length) = 0 ∨
      16 < paddedLength plain.length - plain.length ∨
      paddedLength plain.length < paddedLength plain.length - plain.length) := by
    rw [← UInt8.toNat_inj, value, UInt8.toNat_zero]
    omega
  simp only [count?, last, length, value, if_neg usable]

end PairedAudio.Cipher.Padding
