import PairedAudio.Capture.Tone
import PairedAudio.Server.State

/-! The audio path: each chunk becomes one packet to the client that the audio socket is connected
to. Chunks too large for a datagram are dropped, and what cannot be sent is lost. -/

set_option autoImplicit false

namespace PairedAudio

open Capture (Tone)

inductive ChunkReport
  | sent (datagram : Datagram)
  | lost
  | dropped (error : CodecError)
  deriving DecidableEq, Repr

namespace Server

variable {σ : Type}

def sealChunk (chunk : List UInt8) (s : Server σ) : Except CodecError (List UInt8) × Server σ :=
  let (packet, scratch) := s.audio.framer.encodeInto chunk s.audio.scratch s.ivs
  (packet.outcome.map scratch.take,
    { s with audio := { framer := packet.framer, scratch }, ivs := packet.ivs })

def transmit (send : Option OsError) (packet : List UInt8) (s : Server σ) :
    ChunkReport × Server σ :=
  match s.pairing.destination, send with
  | some recipient, none =>
    (.sent ⟨recipient, packet⟩, { s with sent := s.sent ++ [⟨recipient, packet⟩] })
  | _, _ => (.lost, s)

def emit (send : Option OsError) (chunk : List UInt8) (s : Server σ) : ChunkReport × Server σ :=
  match s.sealChunk chunk with
  | (.error e, s) => (.dropped e, s)
  | (.ok packet, s) => s.transmit send packet

def emitTone (send : Option OsError) (s : Server Tone) : Option ChunkReport × Server Tone :=
  let (delivery, device) := s.pairing.device.next
  let s := { s with pairing := { s.pairing with device } }
  match delivery with
  | none => (none, s)
  | some delivery =>
    let (report, s) := s.emit send delivery.chunk
    (some report, s)

def emitTones : Nat → Server Tone → List ChunkReport × Server Tone
  | 0, s => ([], s)
  | n + 1, s =>
    let (report, s) := s.emitTone none
    let (rest, s) := emitTones n s
    (report.toList ++ rest, s)

end Server

end PairedAudio
