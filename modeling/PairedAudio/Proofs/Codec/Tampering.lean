import PairedAudio.Proofs.Codec.Buffers
import PairedAudio.Proofs.Codec.Chaining

/-! What a change of one block of a packet does to what opens.

A text block is its cipher block deciphered and combined with the block in front. So a mask over one
block of a packet is laid over the text block that follows it, and besides garbles at most the text
of the masked cipher block itself. The payload is then cut off the changed text by its last byte, as
off any text, and the framer is left as the packet in its first form leaves it.
-/

set_option autoImplicit false

namespace PairedAudio

open Cipher

namespace Cipher

/-- A mask laid over block number `n` of a run of bytes. -/
def masked (mask : Block) (n : Nat) (bytes : List UInt8) : List UInt8 :=
  bytes.mapIdx fun i byte => if i / 16 = n then byte ^^^ mask.toBytes.getD (i % 16) 0 else byte

@[simp] theorem length_masked (mask : Block) (n : Nat) (bytes : List UInt8) :
    (masked mask n bytes).length = bytes.length := List.length_mapIdx

namespace Block

theorem getElem?_join (blocks : List Block) (i : Nat) :
    (join blocks)[i]? = blocks[i / 16]?.bind fun b => b.toBytes[i % 16]? := by
  -- Over the blocks: byte i stands in the first one, or sixteen further on in the rest.
  induction blocks generalizing i with
  | nil => rfl
  | cons b rest ih =>
    rw [join_cons]
    by_cases front : i < 16
    · rw [List.getElem?_append_left (by rw [length_toBytes]; exact front), Nat.div_eq_of_lt front,
        Nat.mod_eq_of_lt front]
      rfl
    · obtain ⟨j, rfl⟩ : ∃ j, i = j + 16 := ⟨i - 16, by omega⟩
      rw [List.getElem?_append_right (by rw [length_toBytes]; omega), length_toBytes,
        Nat.add_sub_cancel, ih, Nat.add_div_right j (by decide), Nat.add_mod_right]
      rfl

theorem toBytes_xor (a b : Block) :
    (a.xor b).toBytes = List.zipWith (· ^^^ ·) a.toBytes b.toBytes := rfl

theorem getElem?_toBytes_xor (a b : Block) {i : Nat} (inside : i < 16) :
    (a.xor b).toBytes[i]? = a.toBytes[i]?.map (· ^^^ b.toBytes.getD i 0) := by
  have left : a.toBytes[i]? = some a.toBytes[i] := List.getElem?_eq_getElem inside
  have right : b.toBytes[i]? = some b.toBytes[i] := List.getElem?_eq_getElem inside
  rw [toBytes_xor, List.getElem?_zipWith, List.getD_eq_getElem?_getD, left, right]
  rfl

theorem masked_join (mask : Block) (n : Nat) (blocks : List Block) :
    masked mask n (join blocks) = join (blocks.modify n (·.xor mask)) := by
  apply List.ext_getElem?
  intro i
  rw [masked, List.getElem?_mapIdx, getElem?_join, getElem?_join, List.getElem?_modify]
  cases blocks[i / 16]? with
  | none => rfl
  | some b =>
    have inside : i % 16 < 16 := Nat.mod_lt i (by decide)
    by_cases here : i / 16 = n
    · subst here
      simp [getElem?_toBytes_xor b mask inside]
    · simp [here, Ne.symm here]

theorem xor_assoc (a b c : Block) : (a.xor b).xor c = a.xor (b.xor c) := by
  simp only [xor, Word.xor, UInt8.xor_assoc]

theorem xor_right_cancel {a b c : Block} (same : a.xor c = b.xor c) : a = b := by
  rw [← xor_xor_self a c, same, xor_xor_self]

theorem xor_self (a : Block) : a.xor a = default := by
  simp only [xor, Word.xor, UInt8.xor_self]
  rfl

theorem default_xor (a : Block) : (default : Block).xor a = a := by
  calc (default : Block).xor a = (a.xor a).xor a := by rw [xor_self]
    _ = a := xor_xor_self a a

theorem eq_default_of_xor_eq {a mask : Block} (same : a.xor mask = a) : mask = default := by
  calc mask = (a.xor a).xor mask := by rw [xor_self, default_xor]
    _ = a.xor (a.xor mask) := xor_assoc ..
    _ = default := by rw [same, xor_self]

theorem getElem?_of_join {blocks others : List Block} {j : Nat} (inside : j < blocks.length)
    (within : j < others.length) (same : ∀ i, i / 16 = j → (join blocks)[i]? = (join others)[i]?) :
    blocks[j]? = others[j]? := by
  rw [List.getElem?_eq_getElem inside, List.getElem?_eq_getElem within]
  apply congrArg some
  apply toBytes_inj
  apply List.ext_getElem (by rw [length_toBytes, length_toBytes])
  intro k low _
  rw [length_toBytes] at low
  have place : (16 * j + k) / 16 = j := by omega
  have offset : (16 * j + k) % 16 = k := by omega
  have byte := same (16 * j + k) place
  rw [getElem?_join, getElem?_join, place, offset, List.getElem?_eq_getElem inside,
    List.getElem?_eq_getElem within, Option.bind_some, Option.bind_some,
    List.getElem?_eq_getElem low, List.getElem?_eq_getElem low] at byte
  exact Option.some.inj byte

end Block

namespace Chain

variable (decipher : Block → Block) (iv mask : Block) (cipher : List Block)

/-- Each text block is its cipher block deciphered and combined with the block in front. -/
theorem decrypt_eq_zipWith :
    decrypt decipher iv cipher =
      List.zipWith (fun block front => (decipher block).xor front) cipher (iv :: cipher) := by
  -- Over the blocks, for every vector: the first block is the vector of the rest.
  induction cipher generalizing iv with
  | nil => rfl
  | cons block rest ih => rw [decrypt, ih, List.zipWith_cons_cons]

theorem getElem?_decrypt (i : Nat) :
    (decrypt decipher iv cipher)[i]? =
      cipher[i]?.bind fun block => (iv :: cipher)[i]?.map ((decipher block).xor ·) := by
  rw [decrypt_eq_zipWith, List.getElem?_zipWith]
  cases cipher[i]? <;> cases (iv :: cipher)[i]? <;> rfl

theorem decrypt_masked_vector :
    decrypt decipher (iv.xor mask) cipher = (decrypt decipher iv cipher).modify 0 (·.xor mask) := by
  cases cipher with
  | nil => rfl
  | cons block rest =>
    rw [decrypt, decrypt, List.modify_zero_cons, Block.xor_assoc]

theorem getElem?_decrypt_masked {i j : Nat} (other : i ≠ j) :
    (decrypt decipher iv (cipher.modify j (·.xor mask)))[i]? =
      ((decrypt decipher iv cipher).modify (j + 1) (·.xor mask))[i]? := by
  have kept : (cipher.modify j (·.xor mask))[i]? = cipher[i]? :=
    List.getElem?_modify_ne _ _ (Ne.symm other)
  rw [List.getElem?_modify, getElem?_decrypt, getElem?_decrypt, kept, ← List.modify_succ_cons,
    List.getElem?_modify]
  cases cipher[i]? with
  | none => simp
  | some block =>
    cases (iv :: cipher)[i]? with
    | none => simp
    | some front =>
      by_cases next : j + 1 = i
      · simp [next, Block.xor_assoc]
      · simp [next]

theorem decrypt_masked_here {decipher encipher : Block → Block} (undo : ∀ b, encipher (decipher b) = b)
    {j : Nat} (inside : j < cipher.length) (filled : mask ≠ default) :
    (decrypt decipher iv (cipher.modify j (·.xor mask)))[j]? ≠ (decrypt decipher iv cipher)[j]? := by
  have front : (iv :: cipher.modify j (·.xor mask))[j]? = (iv :: cipher)[j]? := by
    rw [← List.modify_succ_cons]
    exact List.getElem?_modify_ne _ _ (by omega)
  have within : j < (iv :: cipher).length := by rw [List.length_cons]; omega
  rw [getElem?_decrypt, getElem?_decrypt, front, List.getElem?_eq_getElem within,
    List.getElem?_modify_eq, List.getElem?_eq_getElem inside]
  intro same
  have deciphered : decipher (cipher[j].xor mask) = decipher cipher[j] :=
    Block.xor_right_cancel (Option.some.inj same)
  have block : cipher[j].xor mask = cipher[j] := by rw [← undo (cipher[j].xor mask), deciphered, undo]
  exact filled (Block.eq_default_of_xor_eq block)

end Chain

theorem masked_of_beyond (mask : Block) {n : Nat} {bytes : List UInt8} (beyond : bytes.length ≤ 16 * n) :
    masked mask n bytes = bytes := by
  apply List.ext_getElem (length_masked ..)
  intro i inside inside'
  have other : i / 16 ≠ n := by omega
  simp only [masked, List.getElem_mapIdx, if_neg other]

theorem masked_default (n : Nat) (bytes : List UInt8) : masked default n bytes = bytes := by
  have zero (k : Nat) : (default : Block).toBytes.getD k 0 = 0 := by
    match k with
    | 0 | 1 | 2 | 3 | 4 | 5 | 6 | 7 | 8 | 9 | 10 | 11 | 12 | 13 | 14 | 15 | _ + 16 => rfl
  apply List.ext_getElem (length_masked ..)
  intro i inside inside'
  simp only [masked, List.getElem_mapIdx, zero, UInt8.xor_zero, ite_self]

end Cipher

namespace Framer

theorem text_join (key iv : Block) (cipher : List Block) :
    text key (Block.join (iv :: cipher)) = Block.join (Chain.decrypt (Aes.decipher key) iv cipher) := by
  have front : (Block.join (iv :: cipher)).take 16 = iv.toBytes := List.take_left' iv.length_toBytes
  have behind : (Block.join (iv :: cipher)).drop 16 = Block.join cipher :=
    List.drop_left' iv.length_toBytes
  rw [text, vector, front, behind, Block.ofBytes?_toBytes, Option.getD_some, Codec.paddedText,
    Block.split_join]

theorem text_sealed (key iv : Block) (plain : List UInt8) :
    text key (sealed key iv plain) = Padding.pad plain := by
  have behind : (sealed key iv plain).drop 16 = Codec.cipherText key iv plain :=
    List.drop_left' iv.length_toBytes
  rw [text, vector_sealed, behind, Codec.paddedText_cipherText]

theorem exists_join {packet : List UInt8} (long : 16 ≤ packet.length) (aligned : packet.length % 16 = 0) :
    ∃ iv cipher, packet = Block.join (iv :: cipher) := by
  have whole : Block.join (Block.split packet) = packet := Block.join_split packet aligned
  cases blocks : Block.split packet with
  | nil =>
    rw [← whole, blocks] at long
    exact absurd long (by decide)
  | cons iv cipher => exact ⟨iv, cipher, by rw [← blocks, whole]⟩

section Changed

variable (key mask : Block) {packet : List UInt8}

theorem text_masked_vector (long : 16 ≤ packet.length) (aligned : packet.length % 16 = 0) :
    text key (masked mask 0 packet) = masked mask 0 (text key packet) := by
  obtain ⟨iv, cipher, rfl⟩ := exists_join long aligned
  rw [Block.masked_join, List.modify_zero_cons, text_join, text_join, Block.masked_join,
    Chain.decrypt_masked_vector]

theorem getElem?_text_masked (long : 16 ≤ packet.length) (aligned : packet.length % 16 = 0) {j i : Nat}
    (other : i / 16 ≠ j) :
    (text key (masked mask (j + 1) packet))[i]? = (masked mask (j + 1) (text key packet))[i]? := by
  obtain ⟨iv, cipher, rfl⟩ := exists_join long aligned
  rw [Block.masked_join, List.modify_succ_cons, text_join, text_join, Block.masked_join,
    Block.getElem?_join, Block.getElem?_join, Chain.getElem?_decrypt_masked _ _ _ _ other]

theorem text_masked_here (aligned : packet.length % 16 = 0) {j : Nat} (inside : j + 1 < packet.length / 16)
    (filled : mask ≠ default) :
    ∃ i, i / 16 = j ∧ (text key (masked mask (j + 1) packet))[i]? ≠ (text key packet)[i]? := by
  obtain ⟨iv, cipher, rfl⟩ := exists_join (by omega) aligned
  rw [Block.length_join, List.length_cons] at inside
  have position : j < cipher.length := by omega
  rw [Block.masked_join, List.modify_succ_cons, text_join, text_join]
  have changed := Chain.decrypt_masked_here iv mask cipher (Aes.encipher_decipher key) position filled
  -- If all its bytes were the same, the block would be.
  apply Classical.byContradiction
  intro unchanged
  apply changed
  apply Block.getElem?_of_join (by simpa using position) (by simpa using position)
  intro i here
  exact Classical.byContradiction fun differs => unchanged ⟨i, here, differs⟩

end Changed

/-- What is cut off a text is told by its last byte alone. -/
def cut (text : List UInt8) : Except CodecError (List UInt8) :=
  let last := text.getLastD 0
  if last = 0 ∨ 16 < last.toNat then .error (.invalidPadding last)
  else .ok (text.take (text.length - last.toNat))

section Cut

variable (framer : Framer) {packet : List UInt8}

theorem payload_of_blocks (key : Block) (long : 32 ≤ packet.length) (aligned : packet.length % 16 = 0) :
    payload key packet = cut (text key packet) := by
  have length := length_text key packet aligned
  have reaches : ¬ packet.length < minimumLength := by rw [minimumLength]; omega
  have whole : Codec.isAligned (packet.drop 16) = true := by
    rw [Codec.isAligned_iff, List.length_drop]
    omega
  rw [payload_eq_text, if_neg reaches, if_pos whole]
  simp only [Padding.count?, cut]
  -- A number up to sixteen is never more than the bytes there are.
  by_cases loose : (text key packet).getLastD 0 = 0 ∨ 16 < ((text key packet).getLastD 0).toNat
  · rw [if_pos loose, if_pos (loose.imp_right Or.inl)]
  · rw [if_neg loose, if_neg fun refused => loose (refused.imp_right fun beyond => by omega)]

theorem left_of_blocks (long : 32 ≤ packet.length) : left (decode packet framer) = framer.disarmed := by
  rw [left_decode, afterOpening, if_neg (by rw [minimumLength]; omega)]

end Cut

/-- A mask over the vector of a packet is laid over the first block of its text and changes no other.
A mask over a cipher block is laid over the text of the block behind it; besides that it changes the
text of the masked block, and changes no other. Whether the packet then opens, and what is cut off,
is told by the last byte of the changed text, and the framer is left as by the packet before. -/
theorem tampering_shifts_one_block (framer : Framer) (packet : List UInt8) (mask : Block)
    (long : 32 ≤ packet.length) (aligned : packet.length % 16 = 0) :
    let whole := text framer.codec.key packet
    let changed := fun n => text framer.codec.key (masked mask n packet)
    changed 0 = masked mask 0 whole ∧
    (∀ j i, i / 16 ≠ j → (changed (j + 1))[i]? = (masked mask (j + 1) whole)[i]?) ∧
    (∀ j, (∃ i, i / 16 = j ∧ (changed (j + 1))[i]? ≠ whole[i]?) ↔
      mask ≠ default ∧ j + 1 < packet.length / 16) ∧
    ∀ n, outcome (decode (masked mask n packet) framer) = cut (changed n) ∧
      outcome (framer.decodeInPlace (masked mask n packet)).1 = cut (changed n) ∧
      left (decode (masked mask n packet) framer) = left (decode packet framer) ∧
      left (framer.decodeInPlace (masked mask n packet)).1 = left (decode packet framer) := by
  intro whole changed
  refine ⟨text_masked_vector _ mask (by omega) aligned, fun j i other =>
    getElem?_text_masked _ mask (by omega) aligned other, fun j => ⟨?_, ?_⟩, fun n => ?_⟩
  · rintro ⟨i, here, differs⟩
    constructor
    · rintro rfl
      apply differs
      simp only [changed, whole, masked_default]
    · apply Classical.byContradiction
      intro outside
      have beyond : packet.length ≤ 16 * (j + 1) := by omega
      apply differs
      simp only [changed, whole, masked_of_beyond mask beyond]
  · rintro ⟨filled, inside⟩
    exact text_masked_here _ mask aligned inside filled
  · have length : (masked mask n packet).length = packet.length := length_masked ..
    have opens : payload framer.codec.key (masked mask n packet) = cut (changed n) :=
      payload_of_blocks _ (by rw [length]; exact long) (by rw [length]; exact aligned)
    have rests : left (decode (masked mask n packet) framer) = left (decode packet framer) := by
      rw [left_of_blocks framer (by rw [length]; exact long), left_of_blocks framer long]
    have same : (framer.decodeInPlace (masked mask n packet)).1 = decode (masked mask n packet) framer :=
      congrArg Prod.fst (framer.decodeInPlace_eq_decode (masked mask n packet))
    rw [same, outcome_decode, opens, rests]
    exact ⟨rfl, rfl, rfl, rfl⟩

/-- Of two cipher blocks the first is masked in its last byte: the last byte of the text, twelve, is
masked with it, and the packet is refused for it. -/
theorem tampering_reaches_padding :
    let framer := ofKey ⟨default⟩
    let packet := sealed default default (List.replicate 20 7)
    let mask := Block.tabulate fun i => if i = 15 then 0xff else 0
    32 ≤ packet.length ∧ packet.length % 16 = 0 ∧
      (text default (masked mask 1 packet))[31]? = some 0xf3 ∧
      outcome (decode (masked mask 1 packet) framer) = .error (.invalidPadding 0xf3) := by
  intro framer packet mask
  have length : packet.length = 48 := length_sealed ..
  have long : 32 ≤ packet.length := by omega
  have aligned : packet.length % 16 = 0 := by omega
  have law := tampering_shifts_one_block framer packet mask long aligned
  have whole : text default packet = Padding.pad (List.replicate 20 7) := text_sealed ..
  have last : (text default (masked mask 1 packet))[31]? = some 0xf3 := by
    calc (text default (masked mask 1 packet))[31]? = (masked mask 1 (text default packet))[31]? :=
        law.2.1 0 31 (by decide)
      _ = some 0xf3 := by rw [whole]; decide
  have count : (text default (masked mask 1 packet)).length = 32 := by
    rw [length_text _ _ (by rw [length_masked]; exact aligned), length_masked, length]
  have final : (text default (masked mask 1 packet)).getLastD 0 = 0xf3 := by
    rw [List.getLastD_eq_getLast?, List.getLast?_eq_getElem?, count, last]
    rfl
  have refused : cut (text default (masked mask 1 packet)) = .error (.invalidPadding 0xf3) := by
    rw [cut, final]
    rfl
  exact ⟨long, aligned, last, (law.2.2.2 1).1.trans refused⟩

end Framer

end PairedAudio
