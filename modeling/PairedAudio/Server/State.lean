import PairedAudio.Capture.Device
import PairedAudio.Config
import PairedAudio.Packet
import PairedAudio.Session

/-! The state of a streaming server, and how it starts. Two workers, one for handshakes and one for
commands, share the pairing: the capture backend, the session it captures for, and the client that
the audio goes to. Each worker, and the audio path, has a framer and a buffer of its own. -/

set_option autoImplicit false

namespace PairedAudio

open Audio (Format)
open Capture (Device Listener)
open Cipher (IvSource Key)

inductive Worker
  | control
  | command
  deriving DecidableEq, Repr

def Worker.name : Worker → String
  | control => "handshake"
  | command => "command"

/-- What a worker changes only as a whole. -/
structure Pairing (σ : Type) where
  device : σ
  session : Option Session := none
  /-- Where the audio socket is connected to. -/
  destination : Option SocketAddress := none

/-- The length of a receive buffer; longer datagrams are cut to it. -/
def receiveLength : Nat := 8192

/-- A buffer with bytes written over its front; what lies behind them stays. -/
def overwrite (bytes buffer : List UInt8) : List UInt8 := bytes ++ buffer.drop bytes.length

/-- A worker's own framer, the buffer that it receives every datagram in, and whether the worker has
come to its end. -/
structure WorkerState where
  framer : Framer
  buffer : List UInt8 := List.replicate receiveLength 0
  ended : Bool := false

def maximumDatagram : Nat := 65507

structure AudioPath where
  framer : Framer
  scratch : List UInt8 := List.replicate maximumDatagram 0

structure Datagram where
  recipient : SocketAddress
  bytes : List UInt8
  deriving DecidableEq, Repr

structure Server (σ : Type) where
  key : Key
  format : Format
  commandPort : UInt16
  pairing : Pairing σ
  control : WorkerState
  command : WorkerState
  audio : AudioPath
  ivs : IvSource
  running : Bool := true
  /-- Shut down, with all sockets closed. -/
  closed : Bool := false
  sessions : Nat := 0
  sent : List Datagram := []

/-- How the calls that prepare a server fail, in the order in which they are made. -/
structure Setup where
  bindControl : Option OsError := none
  bindCommand : Option OsError := none
  bindAudio : Option OsError := none
  controlAddress : Option OsError := none
  commandAddress : Option OsError := none
  spawnHandshake : Option OsError := none
  spawnCommand : Option OsError := none

namespace Setup

def step (context : String) : Option OsError → Except StreamError Unit
  | none => .ok ()
  | some e => .error (.transport context e)

def run (p : Setup) : Except StreamError Unit := do
  step "bind control socket" p.bindControl
  step "bind command socket" p.bindCommand
  step "bind audio socket" p.bindAudio
  step "control socket address" p.controlAddress
  step "command socket address" p.commandAddress
  step "spawn handshake thread" p.spawnHandshake
  step "spawn command thread" p.spawnCommand

end Setup

namespace Server

variable {σ : Type}

def audioListener : Listener := ⟨"audio path", false⟩

def initial (backend : Device σ) (key : Key) (format : Format) (commandPort : UInt16) (device : σ)
    (ivs : IvSource) : Server σ where
  key
  format
  commandPort
  pairing := { device := backend.listen audioListener device }
  control := { framer := .ofKey key }
  command := { framer := .ofKey key }
  audio := { framer := .ofKey key }
  ivs

def start (backend : Device σ) (config : Config) (device : σ) (commandPort : UInt16)
    (ivs : IvSource) (setup : Setup) : Except StreamError (Server σ) := do
  config.validate.mapError ConfigError.asStream
  let key ← Key.ofSecret config.pairCode
  setup.run
  return initial backend key config.format commandPort device ivs

def isRunning (s : Server σ) : Bool := !s.closed && s.running

def session (s : Server σ) : Option Session := s.pairing.session

def worker (s : Server σ) : Worker → WorkerState
  | .control => s.control
  | .command => s.command

def setWorker (s : Server σ) (w : Worker) (state : WorkerState) : Server σ :=
  match w with
  | .control => { s with control := state }
  | .command => { s with command := state }

/-- A worker's end stops the server. -/
def endWorker (s : Server σ) (w : Worker) : Server σ :=
  { s.setWorker w { s.worker w with ended := true } with running := false }

def halt (backend : Device σ) (s : Server σ) : Server σ :=
  { s with pairing := { s.pairing with
      device := backend.stop s.pairing.device
      session := s.pairing.session.map Session.halt } }

/-- Stops the capture and both workers for good. A second shutdown does nothing. -/
def shutdown (backend : Device σ) (s : Server σ) : Server σ :=
  if s.closed then s
  else { ((s.halt backend).endWorker .control).endWorker .command with closed := true }

end Server

end PairedAudio
