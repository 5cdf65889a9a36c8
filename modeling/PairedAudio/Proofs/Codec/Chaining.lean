import PairedAudio.Proofs.Acceptance

/-! What opens under a key and a vector, and how much of a cipher text its payload gives back.

Enciphering and deciphering a text of whole blocks undo each other, and what stands in front of a
block decides nothing but the blocks behind it. Only the last byte of a text tells its padding, so
more texts open than are ever written; sealing the payload again mends the padding, which lies in the
last block, and leaves all blocks before it as they were.
-/

set_option autoImplicit false

namespace PairedAudio.Cipher

namespace Block

theorem join_cons (b : Block) (blocks : List Block) : join (b :: blocks) = b.toBytes ++ join blocks := rfl

theorem take_join (blocks : List Block) (n : Nat) : (join blocks).take (16 * n) = join (blocks.take n) := by
  -- Over the blocks: sixteen bytes more are one block more.
  induction blocks generalizing n with
  | nil => simp [join]
  | cons b rest ih =>
    cases n with
    | zero => rfl
    | succ n =>
      have beyond : 16 * (n + 1) = b.toBytes.length + 16 * n := by rw [length_toBytes]; omega
      rw [join_cons, List.take_succ_cons, join_cons, beyond, List.take_length_add_append, ih]

end Block

theorem Chain.take_encrypt (encipher : Block → Block) (iv : Block) (plain : List Block) (n : Nat) :
    (encrypt encipher iv plain).take n = encrypt encipher iv (plain.take n) := by
  induction plain generalizing iv n with
  | nil => simp [encrypt]
  | cons b rest ih =>
    cases n with
    | zero => rfl
    | succ n => simp only [encrypt, List.take_succ_cons, ih]

namespace Padding

section Last

variable {text : List UInt8} {n : Nat}

theorem pad_take (aligned : text.length % 16 = 0) (positive : 1 ≤ n) (small : n ≤ 16)
    (inside : n ≤ text.length) :
    pad (text.take (text.length - n)) =
      text.take (text.length - n) ++ List.replicate n (UInt8.ofNat n) := by
  have length : (text.take (text.length - n)).length = text.length - n := by
    rw [List.length_take]
    omega
  have count : paddedLength (text.length - n) - (text.length - n) = n := by
    rw [paddedLength]
    omega
  simp only [pad, length, count]

theorem length_pad_take (aligned : text.length % 16 = 0) (positive : 1 ≤ n) (small : n ≤ 16)
    (inside : n ≤ text.length) : (pad (text.take (text.length - n))).length = text.length := by
  rw [pad_take aligned positive small inside, List.length_append, List.length_take,
    List.length_replicate]
  omega

theorem pad_take_eq_iff (aligned : text.length % 16 = 0) (positive : 1 ≤ n) (small : n ≤ 16)
    (inside : n ≤ text.length) :
    pad (text.take (text.length - n)) = text ↔ ∀ b ∈ text.drop (text.length - n), b = UInt8.ofNat n := by
  have whole : text.take (text.length - n) ++ text.drop (text.length - n) = text :=
    List.take_append_drop ..
  have count : (text.drop (text.length - n)).length = n := by
    rw [List.length_drop]
    omega
  rw [pad_take aligned positive small inside]
  constructor
  · intro same b member
    have tail : List.replicate n (UInt8.ofNat n) = text.drop (text.length - n) :=
      List.append_cancel_left (same.trans whole.symm)
    rw [← tail] at member
    exact List.eq_of_mem_replicate member
  · intro equal
    have tail : text.drop (text.length - n) = List.replicate n (UInt8.ofNat n) :=
      List.eq_replicate_iff.mpr ⟨count, equal⟩
    rw [← tail, whole]

theorem take_pad_take (aligned : text.length % 16 = 0) (positive : 1 ≤ n) (small : n ≤ 16)
    (inside : n ≤ text.length) :
    (pad (text.take (text.length - n))).take (text.length - 16) = text.take (text.length - 16) := by
  have front : text.length - 16 ≤ (text.take (text.length - n)).length := by
    rw [List.length_take]
    omega
  rw [pad_take aligned positive small inside, List.take_append_of_le_length front, List.take_take]
  congr 1
  omega

end Last

end Padding

namespace Codec

section Chained

variable (key iv : Block) {text : List UInt8}

theorem chained_join (blocks : List Block) :
    chained key iv (Block.join blocks) = Block.join (Chain.encrypt (Aes.encipher key) iv blocks) := by
  rw [chained, Block.split_join]

theorem take_chained (aligned : text.length % 16 = 0) (n : Nat) :
    (chained key iv text).take (16 * n) = chained key iv (text.take (16 * n)) := by
  rw [← Block.join_split text aligned, chained_join, Block.take_join, Chain.take_encrypt,
    Block.take_join, chained_join]

theorem chained_paddedText {cipher : List UInt8} (aligned : cipher.length % 16 = 0) :
    chained key iv (paddedText key iv cipher) = cipher := by
  rw [paddedText, chained_join, Chain.encrypt_decrypt (Aes.encipher_decipher key),
    Block.join_split cipher aligned]

theorem chained_inj {other : List UInt8} (aligned : text.length % 16 = 0)
    (alike : other.length % 16 = 0) : chained key iv text = chained key iv other ↔ text = other := by
  constructor
  · intro same
    rw [← paddedText_chained key iv aligned, same, paddedText_chained key iv alike]
  · intro same
    rw [same]

end Chained

section Opening

variable (key iv : Block) (cipher : List UInt8)

theorem decrypt_ok_iff (plain : List UInt8) (left : Codec) :
    Codec.decrypt cipher ⟨key, some iv⟩ = .ok plain left ↔
      cipher ≠ [] ∧ cipher.length % 16 = 0 ∧
      1 ≤ ((paddedText key iv cipher).getLastD 0).toNat ∧
      ((paddedText key iv cipher).getLastD 0).toNat ≤ 16 ∧
      plain = (paddedText key iv cipher).take
        (cipher.length - ((paddedText key iv cipher).getLastD 0).toNat) ∧
      left = ⟨key, none⟩ := by
  simp only [Codec.decrypt]
  by_cases whole : isAligned cipher = true
  · obtain ⟨positive, aligned⟩ := (isAligned_iff cipher).mp whole
    have length := length_paddedText key iv aligned
    have filled : cipher ≠ [] := List.ne_nil_of_length_pos positive
    rw [if_pos whole]
    constructor
    · intro opened
      cases counted : Padding.count? (paddedText key iv cipher) with
      | error last =>
        rw [counted] at opened
        cases opened
      | ok count =>
        obtain ⟨last, low, high, -⟩ := (Padding.count?_ok_iff _ count).mp counted
        rw [counted] at opened
        cases opened
        rw [last, length]
        exact ⟨filled, aligned, low, high, rfl, rfl⟩
    · rintro ⟨-, -, low, high, rfl, rfl⟩
      have inside : ((paddedText key iv cipher).getLastD 0).toNat ≤ (paddedText key iv cipher).length := by
        omega
      rw [(Padding.count?_ok_iff _ _).mpr ⟨rfl, low, high, inside⟩, length]
      rfl
  · rw [if_neg whole]
    constructor
    · intro opened
      cases opened
    · rintro ⟨filled, aligned, -⟩
      exact absurd ((isAligned_iff cipher).mpr ⟨List.length_pos_iff.mpr filled, aligned⟩) whole

end Opening

section Again

variable (key iv : Block) {cipher : List UInt8} {n : Nat}

theorem length_cipherText_take (aligned : cipher.length % 16 = 0) (positive : 1 ≤ n) (small : n ≤ 16)
    (inside : n ≤ cipher.length) :
    (cipherText key iv ((paddedText key iv cipher).take (cipher.length - n))).length = cipher.length := by
  have length := length_paddedText key iv aligned
  rw [← length] at aligned inside ⊢
  have padded := Padding.length_pad_take aligned positive small inside
  rw [cipherText_eq_chained, length_chained key iv (by rw [padded, aligned]), padded]

theorem take_cipherText_take (aligned : cipher.length % 16 = 0) (positive : 1 ≤ n) (small : n ≤ 16)
    (inside : n ≤ cipher.length) :
    (cipherText key iv ((paddedText key iv cipher).take (cipher.length - n))).take (cipher.length - 16) =
      cipher.take (cipher.length - 16) := by
  have length := length_paddedText key iv aligned
  have given := chained_paddedText key iv aligned
  have blocks : cipher.length - 16 = 16 * (cipher.length / 16 - 1) := by omega
  rw [← length] at aligned inside
  have padded := Padding.length_pad_take aligned positive small inside
  have mended := Padding.take_pad_take aligned positive small inside
  rw [length, blocks] at mended
  rw [length] at padded
  rw [blocks, cipherText_eq_chained, take_chained key iv (by rw [padded, ← length, aligned]), mended,
    ← take_chained key iv aligned, given]

theorem cipherText_take_eq_iff (aligned : cipher.length % 16 = 0) (positive : 1 ≤ n) (small : n ≤ 16)
    (inside : n ≤ cipher.length) :
    cipherText key iv ((paddedText key iv cipher).take (cipher.length - n)) = cipher ↔
      ∀ b ∈ (paddedText key iv cipher).drop (cipher.length - n), b = UInt8.ofNat n := by
  have length := length_paddedText key iv aligned
  have given := chained_paddedText key iv aligned
  rw [← length] at aligned inside
  have padded := Padding.length_pad_take aligned positive small inside
  calc cipherText key iv ((paddedText key iv cipher).take (cipher.length - n)) = cipher
      ↔ chained key iv (Padding.pad ((paddedText key iv cipher).take (cipher.length - n))) =
          chained key iv (paddedText key iv cipher) := by rw [given, cipherText_eq_chained]
    _ ↔ Padding.pad ((paddedText key iv cipher).take (cipher.length - n)) = paddedText key iv cipher :=
        chained_inj key iv (by rw [← length, padded, aligned]) aligned
    _ ↔ ∀ b ∈ (paddedText key iv cipher).drop (cipher.length - n), b = UInt8.ofNat n := by
        rw [← length, Padding.pad_take_eq_iff aligned positive small inside]

end Again

/-- A cipher text opens if and only if it is not empty, has whole blocks only, and the last byte that
is deciphered is a number from one to sixteen; the payload is then what lies before as many bytes.
Sealed again under the same key and vector, the payload gives a cipher text as long as the first one
and equal to it in every block but the last; it is the same cipher text if and only if all the bytes
taken off were that number. -/
theorem recovers_up_to_padding (key iv : Block) (cipher : List UInt8) :
    let text := paddedText key iv cipher
    let last := text.getLastD 0
    ∀ plain left, (Codec.decrypt cipher ⟨key, some iv⟩ = .ok plain left ↔
        cipher ≠ [] ∧ cipher.length % 16 = 0 ∧ 1 ≤ last.toNat ∧ last.toNat ≤ 16 ∧
        plain = text.take (cipher.length - last.toNat) ∧ left = ⟨key, none⟩) ∧
      (Codec.decrypt cipher ⟨key, some iv⟩ = .ok plain left →
        ∃ again, Codec.encrypt plain ⟨key, some iv⟩ = .ok again ⟨key, none⟩ ∧
          again.length = cipher.length ∧
          again.take (cipher.length - 16) = cipher.take (cipher.length - 16) ∧
          (again = cipher ↔ ∀ b ∈ text.drop (cipher.length - last.toNat), b = last)) := by
  intro text last plain left
  refine ⟨decrypt_ok_iff key iv cipher plain left, fun opened => ?_⟩
  obtain ⟨filled, aligned, low, high, rfl, -⟩ := (decrypt_ok_iff key iv cipher plain left).mp opened
  have positive : 0 < cipher.length := List.length_pos_iff.mpr filled
  have inside : last.toNat ≤ cipher.length := Nat.le_trans high (by omega)
  have same := cipherText_take_eq_iff key iv aligned low high inside
  rw [UInt8.ofNat_toNat] at same
  exact ⟨_, rfl, length_cipherText_take key iv aligned low high inside,
    take_cipherText_take key iv aligned low high inside, same⟩

/-- Two bytes of padding, of which only the last one says so: they are taken off, and put on again
as two bytes that both say so. -/
theorem recovers_up_to_loose_padding :
    let text : List UInt8 := List.replicate 30 0x41 ++ [7, 2]
    let cipher := chained default default text
    Codec.decrypt cipher ⟨default, some default⟩ = .ok (List.replicate 30 0x41) ⟨default, none⟩ ∧
      ∃ again, Codec.encrypt (List.replicate 30 0x41) ⟨default, some default⟩ =
          .ok again ⟨default, none⟩ ∧
        again.length = cipher.length ∧ again.take 16 = cipher.take 16 ∧ again ≠ cipher := by
  intro text cipher
  have aligned : text.length % 16 = 0 := by decide
  have length : cipher.length = 32 := length_chained default default aligned
  have deciphered : paddedText default default cipher = text := paddedText_chained default default aligned
  have law := recovers_up_to_padding default default cipher (List.replicate 30 0x41) ⟨default, none⟩
  rw [deciphered, length] at law
  have opened := law.1.mpr ⟨List.ne_nil_of_length_pos (by omega), by decide, by decide, by decide,
    by decide, rfl⟩
  obtain ⟨again, encrypted, count, front, same⟩ := law.2 opened
  refine ⟨opened, again, encrypted, count.trans length.symm, front, fun equal => ?_⟩
  exact absurd (same.mp equal) (by decide)

end Codec

end PairedAudio.Cipher
