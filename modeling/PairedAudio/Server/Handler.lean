import PairedAudio.Server.State

/-! What handlers of datagrams are made of: how they fail, how the network treats what they send,
and the steps that both of them take. -/

set_option autoImplicit false

namespace PairedAudio

open Capture (Device Fault)

inductive HandlerFault
  | failed (error : StreamError)
  | crashed
  deriving DecidableEq, Repr

/-- How the network treats the calls made for one datagram, and the time at which it is handled. -/
structure Circumstances where
  reply : Option OsError := none
  connect : Option OsError := none
  ack : Option OsError := none
  now : Nat := 0

/-- An operation on a server that keeps what it has changed when it fails. -/
abbrev Handler (σ α : Type) := EStateM HandlerFault (Server σ) α

namespace Handler

variable {σ α : Type}

def decoded : Except CodecError α → Handler σ α
  | .ok a => pure a
  | .error e => throw (.failed (.decode e))

def onDevice (operation : EStateM Fault σ Unit) : Handler σ Unit := fun s =>
  match operation s.pairing.device with
  | .ok () device => .ok () { s with pairing := { s.pairing with device } }
  | .error (.refused e) device =>
    .error (.failed (.device e)) { s with pairing := { s.pairing with device } }
  | .error .crashed device => .error .crashed { s with pairing := { s.pairing with device } }

/-- Opens a packet with a worker's framer where it stands, at the front of the worker's buffer. -/
def openPacket (w : Worker) (datagram : List UInt8) : Handler σ (List UInt8) := fun s =>
  let (result, left) := (s.worker w).framer.decodeInPlace datagram
  let buffer := overwrite left (s.worker w).buffer
  match result with
  | .ok payload framer => .ok payload (s.setWorker w { s.worker w with framer, buffer })
  | .error e framer =>
    .error (.failed (.decode e)) (s.setWorker w { s.worker w with framer, buffer })

def sealPacket (w : Worker) (payload : List UInt8) : Handler σ (List UInt8) := fun s =>
  let result := (s.worker w).framer.encode payload s.ivs
  let s := { s.setWorker w { s.worker w with framer := result.framer } with ivs := result.ivs }
  match result.outcome with
  | .ok packet => .ok packet s
  | .error e => .error (.failed (.decode e)) s

def recordSent (recipient : SocketAddress) (bytes : List UInt8) (s : Server σ) : Server σ :=
  { s with sent := s.sent ++ [⟨recipient, bytes⟩] }

end Handler

end PairedAudio
