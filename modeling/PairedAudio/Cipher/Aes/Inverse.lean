import PairedAudio.Cipher.Aes

/-! Deciphering undoes enciphering, and enciphering undoes deciphering, under every key. Each step
of a round has its inverse; the two mixings of a column are inverse because doubling is additive. -/

set_option autoImplicit false

namespace PairedAudio.Cipher.Aes

theorem get_get_of_answers {s t : Vector UInt8 256}
    (answers : (s.toList.map fun b => t.toList.getD b.toNat 0) = (List.range 256).map UInt8.ofNat)
    (b : UInt8) : t.get (s.get b.toFin).toFin = b := by
  have outer : b.toNat < 256 := b.toNat_lt
  have inner : (s[b.toNat]).toNat < 256 := UInt8.toNat_lt _
  have answer := congrArg (fun values => values.getD b.toNat 0) answers
  simp [outer, inner] at answer
  exact answer

theorem unsubstitute_substitute (b : UInt8) : unsubstitute (substitute b) = b :=
  get_get_of_answers (by decide +kernel) b

theorem substitute_unsubstitute (b : UInt8) : substitute (unsubstitute b) = b :=
  get_get_of_answers (by decide +kernel) b

theorem xor_cancel_left (a b : UInt8) : a ^^^ (a ^^^ b) = b := by
  rw [← UInt8.xor_assoc, UInt8.xor_self, UInt8.zero_xor]

/-- Below 128 are the bytes whose highest bit is clear, and exclusive or works bit by bit. -/
theorem xor_lt_iff (a b : UInt8) : a ^^^ b < 0x80 ↔ (a < 0x80 ↔ b < 0x80) := by
  have bit (n : UInt8) : n < 0x80 ↔ n.toNat.testBit 7 = false := by
    have small : n.toNat < 256 := n.toNat_lt
    rw [UInt8.lt_iff_toNat_lt, Nat.testBit_eq_decide_div_mod_eq]
    simp
    omega
  rw [bit, bit, bit, UInt8.toNat_xor, Nat.testBit_xor]
  cases a.toNat.testBit 7 <;> cases b.toNat.testBit 7 <;> simp

/-- Doubling is additive: the reduction that one summand needs cancels that of the other. -/
theorem double_xor (a b : UInt8) : double (a ^^^ b) = double a ^^^ double b := by
  have shift : (a ^^^ b) <<< 1 = (a <<< 1) ^^^ (b <<< 1) := UInt8.shiftLeft_xor
  have low := xor_lt_iff a b
  have swap (x y c : UInt8) : x ^^^ y ^^^ c = x ^^^ c ^^^ y := by
    rw [UInt8.xor_assoc, UInt8.xor_comm y c, ← UInt8.xor_assoc]
  have twice (x y c : UInt8) : x ^^^ c ^^^ (y ^^^ c) = x ^^^ y := by
    rw [← UInt8.xor_assoc, swap (x ^^^ c) y c, UInt8.xor_assoc x c c, UInt8.xor_self, UInt8.xor_zero]
  unfold double
  rw [shift]
  by_cases ha : a < 0x80
  · by_cases hb : b < 0x80
    · rw [if_pos (low.mpr (by simp [ha, hb])), if_pos ha, if_pos hb]
    · rw [if_neg (fun h => hb ((low.mp h).mp ha)), if_pos ha, if_neg hb, UInt8.xor_assoc]
  · by_cases hb : b < 0x80
    · rw [if_neg (fun h => ha ((low.mp h).mpr hb)), if_neg ha, if_pos hb, swap]
    · rw [if_pos (low.mpr (by simp [ha, hb])), if_neg ha, if_neg hb, twice]

theorem unmixColumn_mixColumn (w : Word) : unmixColumn (mixColumn w) = w := by
  cases w
  simp only [unmixColumn, mixColumn, times9, times11, times13, times14, triple, double_xor,
    Word.mk.injEq]
  refine ⟨?_, ?_, ?_, ?_⟩ <;> ac_nf <;>
    simp only [xor_cancel_left, UInt8.xor_self, UInt8.xor_zero]

theorem mixColumn_unmixColumn (w : Word) : mixColumn (unmixColumn w) = w := by
  cases w
  simp only [unmixColumn, mixColumn, times9, times11, times13, times14, triple, double_xor,
    Word.mk.injEq]
  refine ⟨?_, ?_, ?_, ?_⟩ <;> ac_nf <;>
    simp only [xor_cancel_left, UInt8.xor_self, UInt8.xor_zero]

theorem unshiftRows_shiftRows (s : Block) : unshiftRows (shiftRows s) = s := rfl

theorem shiftRows_unshiftRows (s : Block) : shiftRows (unshiftRows s) = s := rfl

theorem map_unsubstitute_substitute (s : Block) : (s.map substitute).map unsubstitute = s := by
  simp [Block.map, Word.map, unsubstitute_substitute]

theorem map_substitute_unsubstitute (s : Block) : (s.map unsubstitute).map substitute = s := by
  simp [Block.map, Word.map, substitute_unsubstitute]

theorem mapWords_unmixColumn_mixColumn (s : Block) :
    (s.mapWords mixColumn).mapWords unmixColumn = s := by
  simp [Block.mapWords, unmixColumn_mixColumn]

theorem mapWords_mixColumn_unmixColumn (s : Block) :
    (s.mapWords unmixColumn).mapWords mixColumn = s := by
  simp [Block.mapWords, mixColumn_unmixColumn]

theorem unrounds_rounds (s : Block) (keys : List Block) : unrounds (rounds s keys) keys = s := by
  fun_induction rounds s keys with
  | case1 => rfl
  | case2 s key =>
    simp [unrounds, Block.xor_xor_self, unshiftRows_shiftRows, map_unsubstitute_substitute]
  | case3 s key keys more ih =>
    rw [unrounds]
    · simp [ih, Block.xor_xor_self, mapWords_unmixColumn_mixColumn, unshiftRows_shiftRows,
        map_unsubstitute_substitute]
    · exact more

theorem rounds_unrounds (s : Block) (keys : List Block) : rounds (unrounds s keys) keys = s := by
  fun_induction unrounds s keys with
  | case1 => rfl
  | case2 key =>
    simp [rounds, Block.xor_xor_self, shiftRows_unshiftRows, map_substitute_unsubstitute]
  | case3 key keys more ih =>
    rw [rounds]
    · simp [ih, Block.xor_xor_self, mapWords_mixColumn_unmixColumn, shiftRows_unshiftRows,
        map_substitute_unsubstitute]
    · exact more

theorem decipher_encipher (key block : Block) : decipher key (encipher key block) = block := by
  simp [decipher, encipher, unrounds_rounds, Block.xor_xor_self]

theorem encipher_decipher (key block : Block) : encipher key (decipher key block) = block := by
  simp [decipher, encipher, rounds_unrounds, Block.xor_xor_self]

end PairedAudio.Cipher.Aes
