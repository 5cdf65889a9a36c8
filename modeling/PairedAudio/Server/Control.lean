import PairedAudio.Server.Handler
import PairedAudio.Wire.Command

/-! Control of a running stream by commands. Every command is sent back as its acknowledgement; if
that cannot be sent, the capture is stopped. -/

set_option autoImplicit false

namespace PairedAudio

open Capture (Device)
open Wire (Command)

namespace Control

variable {σ : Type}

def read (datagram : List UInt8) : Handler σ Command := do
  let payload ← Handler.openPacket .command datagram
  Handler.decoded (Command.decode payload)

/-- Moves the session to a state unless it is stopped. -/
def moveSession (state : SessionState) (s : Server σ) : Server σ :=
  { s with pairing := { s.pairing with session := s.pairing.session.map (Session.command state) } }

def requestStop (backend : Device σ) (s : Server σ) : Server σ :=
  { s with pairing := { s.pairing with device := backend.requestStop s.pairing.device } }

/-- Carries a command out, in one piece. The backend is commanded whether there is a session or
not. -/
def carryOut (backend : Device σ) : Command → Handler σ Unit
  | .ping => pure ()
  | .play => do
    Handler.onDevice (backend.setPlaying true)
    modify (moveSession .streaming)
  | .pause => do
    Handler.onDevice (backend.setPlaying false)
    modify (moveSession .paused)
  | .stop => do
    modify (requestStop backend)
    modify (moveSession .stopped)

def silence (backend : Device σ) (s : Server σ) : Server σ :=
  { requestStop backend s with pairing := { (requestStop backend s).pairing with
      session := s.pairing.session.map Session.halt } }

/-- Carries a command out and acknowledges it. Gives the error if that could not be sent. -/
def handle (backend : Device σ) (c : Circumstances) (datagram : List UInt8)
    (sender : SocketAddress) : Handler σ (Option OsError) := do
  let command ← read datagram
  carryOut backend command
  let packet ← Handler.sealPacket .command command.encode
  match c.ack with
  | none =>
    modify (Handler.recordSent sender packet)
    return none
  | some e =>
    modify (silence backend)
    return some e

end Control

end PairedAudio
