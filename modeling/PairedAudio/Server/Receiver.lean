import PairedAudio.Log
import PairedAudio.Server.Control
import PairedAudio.Server.Handshake

/-! The workers' loops, one arrival at a time. A bad datagram never ends a worker; a receive that
fails does, and so does a crash, and with a worker ends the running of the server. -/

set_option autoImplicit false

namespace PairedAudio

open Capture (Device)

inductive Arrival
  | datagram (bytes : List UInt8) (sender : SocketAddress)
  | failure (error : OsError)
  deriving DecidableEq, Repr

inductive Report
  /-- Handled; a command's acknowledgement may have been lost. -/
  | handled (lostAck : Option OsError)
  | discarded (error : CodecError)
  | failed (error : StreamError)
  | crashed
  /-- The server no longer ran, and the worker ended. -/
  | exiting
  /-- The worker had ended before. -/
  | ended
  | skipped (error : OsError)
  /-- The receive failed and the worker ended; the error is logged if the server was running. -/
  | stopped (logged : Option OsError)
  deriving DecidableEq, Repr

namespace Report

def line? (w : Worker) (sender : String) : Report → Option Line
  | handled none | exiting | ended | skipped _ | stopped none => none
  | handled (some e) =>
    some (.warn s!"command ack to {sender} failed, stopping capture: {e.message}")
  | discarded e => some (.warn s!"discarding {w.name} datagram from {sender}: {e.message}")
  | failed e => some (.error s!"{w.name} from {sender} failed: {e.message}")
  | crashed => some (.error s!"{w.name}-receiver panicked, stopping")
  | stopped (some e) => some (.error s!"{w.name} receive failed, stopping: {e.message}")

end Report

namespace Server

variable {σ : Type}

def store (w : Worker) (bytes : List UInt8) (s : Server σ) : Server σ :=
  s.setWorker w { s.worker w with buffer := overwrite bytes (s.worker w).buffer }

def handle (backend : Device σ) (w : Worker) (c : Circumstances) (datagram : List UInt8)
    (sender : SocketAddress) : Handler σ (Option OsError) :=
  match w with
  | .control => do
    Handshake.handle backend c datagram sender
    return none
  | .command => Control.handle backend c datagram sender

def receive (backend : Device σ) (w : Worker) (c : Circumstances) (arrival : Arrival)
    (s : Server σ) : Report × Server σ :=
  if (s.worker w).ended then (.ended, s)
  else match arrival with
    | .failure e =>
      if e = .connectionReset then (.skipped e, s)
      else (.stopped (if s.running then some e else none), s.endWorker w)
    | .datagram bytes sender =>
      let received := bytes.take receiveLength
      let s := s.store w received
      if !s.running then (.exiting, s.endWorker w)
      else match handle backend w c ((s.worker w).buffer.take received.length) sender s with
        | .ok lostAck s => (.handled lostAck, s)
        | .error (.failed (.decode e)) s => (.discarded e, s)
        | .error (.failed e) s => (.failed e, s)
        | .error .crashed s => (.crashed, s.endWorker w)

end Server

end PairedAudio
