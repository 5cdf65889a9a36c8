import PairedAudio.Proofs.Acceptance
import PairedAudio.Proofs.RoundTrip

/-! Working in a buffer gives what returning new bytes gives, and touches nothing else.

Both forms of an operation have the same outcome and leave the same codec. What the buffer holds
afterwards is told from that outcome: a sealed text lies over its front, an opened one takes its place,
and an operation that is refused before it starts leaves the buffer alone.
-/

set_option autoImplicit false

namespace PairedAudio

open Cipher

/-- What is left in a buffer that held a cipher text after it was opened in place: the text, also one
whose padding is refused, and after any other refusal what the buffer held before. -/
def Cipher.leftover {α : Type} (text held : List UInt8) : Except CodecError α → List UInt8
  | .ok _ | .error (.invalidPadding _) => text
  | .error _ => held

namespace Cipher.Codec

def outcome {α : Type} : EStateM.Result CodecError Codec α → Except CodecError α
  | .ok value _ => .ok value
  | .error e _ => .error e

def left {α : Type} : EStateM.Result CodecError Codec α → Codec
  | .ok _ codec | .error _ codec => codec

theorem encryptInto_eq_encrypt (codec : Codec) (plain buffer : List UInt8) :
    codec.encryptInto plain buffer = match Codec.encrypt plain codec with
      | .error e codec => ⟨.error e, buffer, codec⟩
      | .ok cipher codec =>
        if buffer.length < cipher.length then
          ⟨.error (.bufferTooSmall cipher.length buffer.length), buffer, codec⟩
        else ⟨.ok cipher.length, cipher ++ buffer.drop cipher.length, codec⟩ := by
  obtain ⟨key, armed⟩ := codec
  cases armed with
  | none => rfl
  | some iv =>
    have sealing : Codec.encrypt plain ⟨key, some iv⟩ = .ok (cipherText key iv plain) ⟨key, none⟩ := rfl
    rw [encryptInto_eq, sealing]
    simp only [length_cipherText]

/-- Without a vector there is no text, and the buffer is left alone whatever stands for it here. -/
theorem decryptInPlace_eq_decrypt (codec : Codec) (buffer : List UInt8) :
    codec.decryptInPlace buffer =
      ⟨outcome (Codec.decrypt buffer codec),
        leftover (paddedText codec.key (codec.iv.getD default) buffer) buffer
          (outcome (Codec.decrypt buffer codec)),
        left (Codec.decrypt buffer codec)⟩ := by
  obtain ⟨key, armed⟩ := codec
  cases armed with
  | none => rfl
  | some iv =>
    simp only [decryptInPlace, decrypt, Option.getD_some]
    by_cases aligned : isAligned buffer = true
    · rw [if_pos aligned, if_pos aligned,
        decryptOver_aligned key iv buffer ((isAligned_iff buffer).mp aligned).2]
      cases Padding.count? (paddedText key iv buffer) with
      | error last => rfl
      | ok count => rfl
    · rw [if_neg aligned, if_neg aligned]
      rfl

end Cipher.Codec

namespace Framer

theorem encodeInto_eq_encode (framer : Framer) (plain buffer : List UInt8) (ivs : IvSource) :
    ∃ packet, (framer.encode plain ivs).outcome = .ok packet ∧
      framer.encodeInto plain buffer ivs =
        if buffer.length < packet.length then
          (⟨.error (.bufferTooSmall packet.length buffer.length), framer, ivs⟩, buffer)
        else
          (⟨.ok packet.length, (framer.encode plain ivs).framer, (framer.encode plain ivs).ivs⟩,
            packet ++ buffer.drop packet.length) := by
  refine ⟨sealed framer.codec.key ivs.draw.1 plain, by rw [encode_eq], ?_⟩
  rw [encodeInto_eq, length_sealed, encode_eq]

theorem decodeInPlace_eq_decode (framer : Framer) (buffer : List UInt8) :
    framer.decodeInPlace buffer =
      (decode buffer framer,
        buffer.take 16 ++
          leftover (text framer.codec.key buffer) (buffer.drop 16) (outcome (decode buffer framer))) := by
  by_cases short : buffer.length < minimumLength
  · simp only [decodeInPlace, decode, if_pos short, outcome, leftover, List.take_append_drop]
  · have armed : onCodec (Codec.setIv (buffer.take 16)) framer =
        .ok () ⟨⟨framer.codec.key, some (vector buffer)⟩⟩ := by
      simp only [onCodec, Codec.setIv, ofBytes?_vector short]
    have opened : decode buffer framer =
        onCodec (Codec.decrypt (buffer.drop 16)) ⟨⟨framer.codec.key, some (vector buffer)⟩⟩ := by
      simp only [decode, if_neg short, onCodec, bind, EStateM.bind, Codec.setIv, ofBytes?_vector short]
    rw [decodeInPlace, if_neg short, armed, opened]
    simp only [Codec.decryptInPlace_eq_decrypt, onCodec]
    cases Codec.decrypt (buffer.drop 16) ⟨framer.codec.key, some (vector buffer)⟩ with
    | ok plain left => rfl
    | error e left => rfl

end Framer

/-- Sealing into a buffer and sealing into new bytes agree: what fits is written over the front of the
buffer and all behind it is kept, and a buffer that is too small, or one for which no vector is armed,
is left alone. Opening in place and opening into new bytes agree: same payload or same error, and the
buffer then holds the deciphered text if it was deciphered, and otherwise what it held; the vector in
front of a packet stays in every case. -/
theorem Framer.buffers_agree (codec : Codec) (framer : Framer) (ivs : IvSource)
    (plain buffer : List UInt8) :
    (codec.encryptInto plain buffer = match Codec.encrypt plain codec with
      | .error e codec => ⟨.error e, buffer, codec⟩
      | .ok cipher codec =>
        if buffer.length < cipher.length then
          ⟨.error (.bufferTooSmall cipher.length buffer.length), buffer, codec⟩
        else ⟨.ok cipher.length, cipher ++ buffer.drop cipher.length, codec⟩) ∧
    (∃ packet, (framer.encode plain ivs).outcome = .ok packet ∧
      framer.encodeInto plain buffer ivs =
        if buffer.length < packet.length then
          (⟨.error (.bufferTooSmall packet.length buffer.length), framer, ivs⟩, buffer)
        else
          (⟨.ok packet.length, (framer.encode plain ivs).framer, (framer.encode plain ivs).ivs⟩,
            packet ++ buffer.drop packet.length)) ∧
    codec.decryptInPlace buffer =
      ⟨Codec.outcome (Codec.decrypt buffer codec),
        leftover (Codec.paddedText codec.key (codec.iv.getD default) buffer) buffer
          (Codec.outcome (Codec.decrypt buffer codec)),
        Codec.left (Codec.decrypt buffer codec)⟩ ∧
    framer.decodeInPlace buffer =
      (decode buffer framer,
        buffer.take 16 ++
          leftover (text framer.codec.key buffer) (buffer.drop 16) (outcome (decode buffer framer))) :=
  ⟨codec.encryptInto_eq_encrypt plain buffer, framer.encodeInto_eq_encode plain buffer ivs,
    codec.decryptInPlace_eq_decrypt buffer, framer.decodeInPlace_eq_decode buffer⟩

end PairedAudio
