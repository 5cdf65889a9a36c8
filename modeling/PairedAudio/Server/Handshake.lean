import PairedAudio.Server.Handler
import PairedAudio.Wire.Settings

/-! Handshakes. A request that can be read ends the session there is, initialises the capture,
answers with the shape of the stream, points the audio at the client and starts the capture; only
then is there a new session. -/

set_option autoImplicit false

namespace PairedAudio

open Capture (Advertised Device)
open Text (decimal)
open Wire (Settings)

namespace Handshake

variable {σ : Type}

/-- A value as a field of the record, which has no room for 2³¹ and more. -/
def wireField (value : UInt32) (what : String) : Except CaptureError Int32 :=
  if value.toNat < 2147483648 then .ok (Int32.ofNat value.toNat)
  else .error (.invalidFormat s!"{what} {decimal value.toNat} does not fit the handshake record")

def answer (request : Settings) (a : Advertised) (commandPort : UInt16) :
    Except CaptureError Settings := do
  let sampleRate ← wireField a.rate "sample rate"
  let enginePeriod ← wireField a.period "engine period"
  return {
    clientPort := request.clientPort
    audioFormat := a.encoding.wireCode
    bitsPerSample := Int32.ofNat a.bits.toNat
    channelCount := Int32.ofNat a.channels.toNat
    sampleRate, enginePeriod
    commandPort := Int32.ofNat commandPort.toNat }

def read (datagram : List UInt8) : Handler σ (Settings × UInt16) := do
  let payload ← Handler.openPacket .control datagram
  let request ← Handler.decoded (Settings.decode payload)
  let port ← Handler.decoded request.audioPort
  return (request, port)

def clear (backend : Device σ) (s : Server σ) : Server σ :=
  { s with pairing := { s.pairing with
      device := backend.stop s.pairing.device
      session := none } }

def reply (c : Circumstances) (sender : SocketAddress) (packet : List UInt8) : Handler σ Unit :=
  fun s => match c.reply with
    | none => .ok () (Handler.recordSent sender packet s)
    | some e => .error (.failed (.send e)) s

def respond (backend : Device σ) (c : Circumstances) (request : Settings) (sender : SocketAddress) :
    Handler σ Unit := do
  let s ← get
  match answer request (backend.advertised s.pairing.device) s.commandPort with
  | .error e => throw (.failed (.device e))
  | .ok settings =>
    let packet ← Handler.sealPacket .control settings.encode
    reply c sender packet

def connect (c : Circumstances) (client : SocketAddress) : Handler σ Unit :=
  fun s => match c.connect with
    | none => .ok () { s with pairing := { s.pairing with destination := some client } }
    | some e => .error (.failed (.transport "connect audio socket" e)) s

def begin (c : Circumstances) (client : SocketAddress) (s : Server σ) : Server σ :=
  let session : Session := ⟨s.sessions, client, .streaming, c.now⟩
  { s with pairing := { s.pairing with session := some session }, sessions := s.sessions + 1 }

/-- Everything that a request does after it has been read, in one piece. -/
def pair (backend : Device σ) (c : Circumstances) (request : Settings) (port : UInt16)
    (sender : SocketAddress) : Handler σ Unit := do
  let client : SocketAddress := ⟨sender.ip, port⟩
  modify (clear backend)
  Handler.onDevice (backend.prepare (← get).format)
  respond backend c request sender
  connect c client
  Handler.onDevice backend.start
  modify (begin c client)

def handle (backend : Device σ) (c : Circumstances) (datagram : List UInt8)
    (sender : SocketAddress) : Handler σ Unit := do
  let (request, port) ← read datagram
  pair backend c request port sender

end Handshake

end PairedAudio
