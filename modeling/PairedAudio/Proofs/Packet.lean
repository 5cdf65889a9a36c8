import PairedAudio.Cipher.Aes.Inverse
import PairedAudio.Packet

/-! What a packet holds, as a function of the key alone.

A framer arms the packet's own vector before each operation and is disarmed by it, so neither a
payload nor a refusal depends on what the framer did before. Sealing always succeeds, and what was
sealed under a key is what opens under it.
-/

set_option autoImplicit false

namespace PairedAudio

open Cipher

namespace Cipher

theorem Block.ofBytes?_of_length {bytes : List UInt8} (length : bytes.length = 16) :
    ∃ block, Block.ofBytes? bytes = some block ∧ block.toBytes = bytes := by
  have whole : Block.join (Block.split bytes) = bytes := Block.join_split bytes (by rw [length])
  have count : 16 * (Block.split bytes).length = 16 := by
    rw [← Block.length_join, whole, length]
  cases blocks : Block.split bytes with
  | nil => simp [blocks] at count
  | cons block rest =>
    have alone : rest = [] := by
      rw [blocks, List.length_cons] at count
      exact List.eq_nil_of_length_eq_zero (by omega)
    subst alone
    refine ⟨block, by simp [Block.ofBytes?, length, blocks], ?_⟩
    rw [blocks] at whole
    simpa [Block.join] using whole

theorem Codec.decryptOver_aligned (key iv : Block) (buffer : List UInt8)
    (aligned : buffer.length % 16 = 0) :
    Chain.decryptOver (Aes.decipher key) iv (buffer.length / 16) buffer =
      Codec.paddedText key iv buffer := by
  have whole : Block.join (Block.split buffer) = buffer := Block.join_split buffer aligned
  have count : buffer.length / 16 = (Block.split buffer).length := by
    have length := Block.length_join (Block.split buffer)
    rw [whole] at length
    omega
  have decrypted := Chain.decryptOver_join (Aes.decipher key) iv (Block.split buffer) []
  rw [List.append_nil, List.append_nil, whole] at decrypted
  rw [count, decrypted, Codec.paddedText]

theorem Codec.isAligned_iff (cipher : List UInt8) :
    Codec.isAligned cipher = true ↔ 0 < cipher.length ∧ cipher.length % 16 = 0 := by
  simp only [Codec.isAligned, Bool.and_eq_true, Bool.not_eq_true', List.isEmpty_eq_false_iff,
    List.length_pos_iff, beq_iff_eq]

theorem Codec.length_paddedText (key iv : Block) {cipher : List UInt8}
    (aligned : cipher.length % 16 = 0) : (paddedText key iv cipher).length = cipher.length := by
  rw [paddedText, Block.length_join, Chain.length_decrypt, ← Block.length_join,
    Block.join_split cipher aligned]

def Codec.chained (key iv : Block) (text : List UInt8) : List UInt8 :=
  Block.join (Chain.encrypt (Aes.encipher key) iv (Block.split text))

theorem Codec.cipherText_eq_chained (key iv : Block) (plain : List UInt8) :
    cipherText key iv plain = chained key iv (Padding.pad plain) := rfl

theorem Codec.length_chained (key iv : Block) {text : List UInt8} (aligned : text.length % 16 = 0) :
    (chained key iv text).length = text.length := by
  rw [chained, Block.length_join, Chain.length_encrypt, ← Block.length_join,
    Block.join_split text aligned]

theorem Codec.paddedText_chained (key iv : Block) {text : List UInt8} (aligned : text.length % 16 = 0) :
    paddedText key iv (chained key iv text) = text := by
  rw [paddedText, chained, Block.split_join, Chain.decrypt_encrypt (Aes.decipher_encipher key),
    Block.join_split text aligned]

theorem Padding.length_pad_mod (plain : List UInt8) : (pad plain).length % 16 = 0 := by
  rw [length_pad, paddedLength]
  omega

theorem Codec.paddedText_cipherText (key iv : Block) (plain : List UInt8) :
    Codec.paddedText key iv (Codec.cipherText key iv plain) = Padding.pad plain :=
  paddedText_chained key iv (Padding.length_pad_mod plain)

theorem Codec.length_cipherText (key iv : Block) (plain : List UInt8) :
    (Codec.cipherText key iv plain).length = Padding.paddedLength plain.length := by
  rw [cipherText_eq_chained, length_chained key iv (Padding.length_pad_mod plain), Padding.length_pad]

/-- Over a buffer that is long enough the cipher text is written and what lies behind it is kept; a
shorter buffer is refused as it is. Either way the vector is used up. -/
theorem Codec.encryptInto_eq (key iv : Block) (plain buffer : List UInt8) :
    (⟨key, some iv⟩ : Codec).encryptInto plain buffer =
      if buffer.length < Padding.paddedLength plain.length then
        ⟨.error (.bufferTooSmall (Padding.paddedLength plain.length) buffer.length), buffer, ⟨key, none⟩⟩
      else
        ⟨.ok (Padding.paddedLength plain.length),
          cipherText key iv plain ++ buffer.drop (Padding.paddedLength plain.length), ⟨key, none⟩⟩ := by
  have blocks : 16 * (Block.split (Padding.pad plain)).length = Padding.paddedLength plain.length := by
    have length := length_cipherText key iv plain
    rw [cipherText, Block.length_join, Chain.length_encrypt] at length
    exact length
  unfold encryptInto
  by_cases small : buffer.length < Padding.paddedLength plain.length
  · simp only [if_pos small]
    rfl
  · simp only [if_neg small, Chain.encryptOver_eq, blocks]
    rfl

end Cipher

namespace Framer

def vector (packet : List UInt8) : Block := (Block.ofBytes? (packet.take 16)).getD default

def payload (key : Block) (packet : List UInt8) : Except CodecError (List UInt8) :=
  let body := packet.drop 16
  if packet.length < minimumLength then .error (.malformed (.shortDatagram packet.length))
  else if Codec.isAligned body then
    let padded := Codec.paddedText key (vector packet) body
    match Padding.count? padded with
    | .error last => .error (.invalidPadding last)
    | .ok count => .ok (padded.take (padded.length - count))
  else .error (.malformed (.unalignedCiphertext body.length))

def sealed (key iv : Block) (plain : List UInt8) : List UInt8 :=
  iv.toBytes ++ Codec.cipherText key iv plain

def disarmed (framer : Framer) : Framer := ⟨framer.codec.disarmed⟩

/-- The framer after it was given a packet to open; too short a one does not reach the codec. -/
def afterOpening (framer : Framer) (packet : List UInt8) : Framer :=
  if packet.length < minimumLength then framer else framer.disarmed

@[simp] theorem afterOpening_key (framer : Framer) (packet : List UInt8) :
    (framer.afterOpening packet).codec.key = framer.codec.key := by
  unfold afterOpening
  split <;> rfl

@[simp] theorem afterOpening_ofKey (key : Key) (packet : List UInt8) :
    (ofKey key).afterOpening packet = ofKey key := by
  unfold afterOpening
  split <;> rfl

theorem ofBytes?_vector {packet : List UInt8} (long : ¬ packet.length < minimumLength) :
    Block.ofBytes? (packet.take 16) = some (vector packet) := by
  have length : (packet.take 16).length = 16 := by
    rw [minimumLength] at long
    rw [List.length_take]
    omega
  obtain ⟨block, found, -⟩ := Block.ofBytes?_of_length length
  rw [vector, found]
  rfl

theorem decodeInPlace_fst (framer : Framer) (packet : List UInt8) :
    (framer.decodeInPlace packet).1 = match payload framer.codec.key packet with
      | .ok plain => .ok plain (framer.afterOpening packet)
      | .error e => .error e (framer.afterOpening packet) := by
  unfold decodeInPlace payload afterOpening
  by_cases short : packet.length < minimumLength
  · simp only [if_pos short]
  -- The vector in front of the packet takes the place of whatever was left armed.
  · simp only [if_neg short, onCodec, Codec.setIv, ofBytes?_vector short, Codec.decryptInPlace]
    by_cases aligned : Codec.isAligned (packet.drop 16) = true
    · simp only [if_pos aligned, Codec.decryptOver_aligned _ _ _ ((Codec.isAligned_iff _).mp aligned).2]
      cases Padding.count? (Codec.paddedText framer.codec.key (vector packet) (packet.drop 16)) <;> rfl
    · simp only [if_neg aligned]
      rfl

theorem decode_eq (framer : Framer) (packet : List UInt8) :
    decode packet framer = match payload framer.codec.key packet with
      | .ok plain => .ok plain (framer.afterOpening packet)
      | .error e => .error e (framer.afterOpening packet) := by
  unfold decode payload afterOpening
  by_cases short : packet.length < minimumLength
  · simp only [if_pos short]
  · simp only [if_neg short, onCodec, bind, EStateM.bind, Codec.setIv, ofBytes?_vector short,
      Codec.decrypt]
    by_cases aligned : Codec.isAligned (packet.drop 16) = true
    · simp only [if_pos aligned]
      cases Padding.count? (Codec.paddedText framer.codec.key (vector packet) (packet.drop 16)) <;> rfl
    · simp only [if_neg aligned]
      rfl

theorem decode_of_payload {key : Key} {packet plain : List UInt8}
    (opens : payload key.block packet = .ok plain) :
    decode packet (ofKey key) = .ok plain (ofKey key) := by
  have holds : (ofKey key).codec.key = key.block := rfl
  rw [decode_eq, holds, opens, afterOpening_ofKey]

theorem encode_eq (framer : Framer) (plain : List UInt8) (ivs : IvSource) :
    framer.encode plain ivs =
      ⟨.ok (sealed framer.codec.key ivs.draw.1 plain), framer.disarmed, ivs.draw.2⟩ := rfl

/-- Over a buffer that is long enough a packet writes itself and keeps what lies behind it; a shorter
buffer is refused before anything happens. -/
theorem encodeInto_eq (framer : Framer) (plain buffer : List UInt8) (ivs : IvSource) :
    framer.encodeInto plain buffer ivs =
      if buffer.length < sealedLength plain.length then
        (⟨.error (.bufferTooSmall (sealedLength plain.length) buffer.length), framer, ivs⟩, buffer)
      else
        (⟨.ok (sealedLength plain.length), framer.disarmed, ivs.draw.2⟩,
          sealed framer.codec.key ivs.draw.1 plain ++ buffer.drop (sealedLength plain.length)) := by
  unfold encodeInto
  by_cases small : buffer.length < sealedLength plain.length
  · simp only [if_pos small]
  -- Behind the vector there is room for the cipher text exactly if the packet fits the buffer.
  · have room : ¬ (buffer.drop 16).length < Padding.paddedLength plain.length := by
      rw [sealedLength] at small
      rw [List.length_drop]
      omega
    rw [if_neg small, if_neg small]
    simp only [onCodec, Codec.setIv, Block.ofBytes?_toBytes, Codec.encryptInto_eq, if_neg room,
      Except.map, List.drop_drop, sealed, sealedLength, List.append_assoc]
    rfl

theorem length_sealed (key iv : Block) (plain : List UInt8) :
    (sealed key iv plain).length = sealedLength plain.length := by
  rw [sealed, List.length_append, Block.length_toBytes, Codec.length_cipherText, sealedLength]

theorem vector_sealed (key iv : Block) (plain : List UInt8) : vector (sealed key iv plain) = iv := by
  have front : (sealed key iv plain).take 16 = iv.toBytes := List.take_left' iv.length_toBytes
  rw [vector, front, Block.ofBytes?_toBytes, Option.getD_some]

theorem payload_sealed (key iv : Block) (plain : List UInt8) :
    payload key (sealed key iv plain) = .ok plain := by
  have body : (sealed key iv plain).drop 16 = Codec.cipherText key iv plain :=
    List.drop_left' iv.length_toBytes
  have length := length_sealed key iv plain
  have long : ¬ (sealed key iv plain).length < minimumLength := by
    rw [length, sealedLength, Padding.paddedLength, minimumLength]
    omega
  have aligned : Codec.isAligned (Codec.cipherText key iv plain) = true := by
    rw [Codec.isAligned_iff, Codec.length_cipherText, Padding.paddedLength]
    omega
  simp only [payload, if_neg long, body, if_pos aligned, vector_sealed, Codec.paddedText_cipherText,
    Padding.count?_pad]
  -- The padding that was counted off is the padding that was put on.
  have kept : (Padding.pad plain).length - (Padding.paddedLength plain.length - plain.length) =
      plain.length := by
    rw [Padding.length_pad, Padding.paddedLength]
    omega
  rw [kept, Padding.pad, List.take_left' rfl]

end Framer

end PairedAudio
