import PairedAudio.Cipher.Codec
import PairedAudio.Cipher.IvSource

/-! Packets: a sixteen-byte initialization vector in the clear, then the cipher text of the
payload. Every packet is sealed under a vector drawn for it alone. -/

set_option autoImplicit false

namespace PairedAudio

open Cipher

structure Framer where
  codec : Codec
  deriving DecidableEq

namespace Framer

def sealedLength (n : Nat) : Nat := 16 + Padding.paddedLength n

def minimumLength : Nat := 17

def ofKey (key : Key) : Framer := ⟨Codec.ofKey key⟩

structure Sealed (α : Type) where
  outcome : Except CodecError α
  framer : Framer
  ivs : IvSource

def onCodec {α : Type} (operation : EStateM CodecError Codec α) : EStateM CodecError Framer α :=
  fun framer => match operation framer.codec with
    | .ok value codec => .ok value ⟨codec⟩
    | .error e codec => .error e ⟨codec⟩

def encode (framer : Framer) (payload : List UInt8) (ivs : IvSource) : Sealed (List UInt8) :=
  let (iv, ivs) := ivs.draw
  match onCodec (do Codec.setIv iv.toBytes; Codec.encrypt payload) framer with
  | .ok body framer => ⟨.ok (iv.toBytes ++ body), framer, ivs⟩
  | .error e framer => ⟨.error e, framer, ivs⟩

/-- Seals a payload into the front of a buffer, and gives the length of the packet and the buffer
afterwards. A buffer that is too small is left alone, and no vector is drawn for it. -/
def encodeInto (framer : Framer) (payload buffer : List UInt8) (ivs : IvSource) :
    Sealed Nat × List UInt8 :=
  let needed := sealedLength payload.length
  if buffer.length < needed then
    (⟨.error (.bufferTooSmall needed buffer.length), framer, ivs⟩, buffer)
  else
    let (iv, ivs) := ivs.draw
    match onCodec (Codec.setIv iv.toBytes) framer with
    | .error e framer => (⟨.error e, framer, ivs⟩, iv.toBytes ++ buffer.drop 16)
    | .ok () framer =>
      let body := Codec.encryptInto payload (buffer.drop 16) framer.codec
      (⟨body.outcome.map (16 + ·), ⟨body.codec⟩, ivs⟩, iv.toBytes ++ body.buffer)

def decode (datagram : List UInt8) : EStateM CodecError Framer (List UInt8) := fun framer =>
  if datagram.length < minimumLength then
    .error (.malformed (.shortDatagram datagram.length)) framer
  else onCodec (do Codec.setIv (datagram.take 16); Codec.decrypt (datagram.drop 16)) framer

/-- Opens a packet where it stands, and gives the buffer afterwards; the vector in front is kept. -/
def decodeInPlace (framer : Framer) (buffer : List UInt8) :
    EStateM.Result CodecError Framer (List UInt8) × List UInt8 :=
  if buffer.length < minimumLength then
    (.error (.malformed (.shortDatagram buffer.length)) framer, buffer)
  else match onCodec (Codec.setIv (buffer.take 16)) framer with
    | .error e framer => (.error e framer, buffer)
    | .ok () framer =>
      let body := Codec.decryptInPlace (buffer.drop 16) framer.codec
      let buffer := buffer.take 16 ++ body.buffer
      match body.outcome with
      | .ok payload => (.ok payload ⟨body.codec⟩, buffer)
      | .error e => (.error e ⟨body.codec⟩, buffer)

end Framer

end PairedAudio
