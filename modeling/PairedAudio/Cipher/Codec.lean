import PairedAudio.Cipher.Aes
import PairedAudio.Cipher.Chain
import PairedAudio.Cipher.Key
import PairedAudio.Cipher.Padding

/-! A codec holds a key, and an initialization vector that serves exactly one operation: every
operation disarms it, one that fails too. Each direction comes in two forms, one that returns new
bytes and one that works in a buffer and says what the buffer holds afterwards. -/

set_option autoImplicit false

namespace PairedAudio.Cipher

structure Codec where
  key : Block
  iv : Option Block
  deriving DecidableEq

structure InBuffer (α : Type) where
  outcome : Except CodecError α
  buffer : List UInt8
  codec : Codec

namespace Codec

def ofKey (key : Key) : Codec := ⟨key.block, none⟩

def setKey (bytes : List UInt8) : EStateM CodecError Codec Unit := fun codec =>
  match Block.ofBytes? bytes with
  | some key => .ok () { codec with key := key }
  | none => .error (.lengthMismatch .key bytes.length) codec

def setIv (bytes : List UInt8) : EStateM CodecError Codec Unit := fun codec =>
  match Block.ofBytes? bytes with
  | some iv => .ok () { codec with iv := some iv }
  | none => .error (.lengthMismatch .iv bytes.length) codec

def disarmed (codec : Codec) : Codec := { codec with iv := none }

def cipherText (key iv : Block) (plain : List UInt8) : List UInt8 :=
  Block.join (Chain.encrypt (Aes.encipher key) iv (Block.split (Padding.pad plain)))

def paddedText (key iv : Block) (cipher : List UInt8) : List UInt8 :=
  Block.join (Chain.decrypt (Aes.decipher key) iv (Block.split cipher))

def encrypt (plain : List UInt8) : EStateM CodecError Codec (List UInt8) := fun codec =>
  match codec.iv with
  | none => .error .missingIv codec
  | some iv => .ok (cipherText codec.key iv plain) codec.disarmed

/-- Encrypts into the front of a buffer; the number is that of the bytes written. -/
def encryptInto (plain buffer : List UInt8) (codec : Codec) : InBuffer Nat :=
  match codec.iv with
  | none => ⟨.error .missingIv, buffer, codec⟩
  | some iv =>
    let needed := Padding.paddedLength plain.length
    if buffer.length < needed then
      ⟨.error (.bufferTooSmall needed buffer.length), buffer, codec.disarmed⟩
    else
      ⟨.ok needed,
        Chain.encryptOver (Aes.encipher codec.key) iv (Block.split (Padding.pad plain)) buffer,
        codec.disarmed⟩

def isAligned (cipher : List UInt8) : Bool := !cipher.isEmpty && cipher.length % 16 == 0

def decrypt (cipher : List UInt8) : EStateM CodecError Codec (List UInt8) := fun codec =>
  match codec.iv with
  | none => .error .missingIv codec
  | some iv =>
    if isAligned cipher then
      let padded := paddedText codec.key iv cipher
      match Padding.count? padded with
      | .error last => .error (.invalidPadding last) codec.disarmed
      | .ok count => .ok (padded.take (padded.length - count)) codec.disarmed
    else .error (.malformed (.unalignedCiphertext cipher.length)) codec.disarmed

/-- Decrypts a buffer where it stands; the outcome is the text without its padding. -/
def decryptInPlace (buffer : List UInt8) (codec : Codec) : InBuffer (List UInt8) :=
  match codec.iv with
  | none => ⟨.error .missingIv, buffer, codec⟩
  | some iv =>
    if isAligned buffer then
      let padded := Chain.decryptOver (Aes.decipher codec.key) iv (buffer.length / 16) buffer
      match Padding.count? padded with
      | .error last => ⟨.error (.invalidPadding last), padded, codec.disarmed⟩
      | .ok count => ⟨.ok (padded.take (padded.length - count)), padded, codec.disarmed⟩
    else ⟨.error (.malformed (.unalignedCiphertext buffer.length)), buffer, codec.disarmed⟩

end Codec

end PairedAudio.Cipher
