import PairedAudio.Proofs.Backend
import PairedAudio.Proofs.Handlers
import PairedAudio.Server.Stream

/-! The capture threads of a tone beside the two handlers, one step at a time and in any order.

The handlers take the lock of the pairing for what they do to it; the capture threads never take it,
and share the tone's flags, the audio path and the audio socket with the handlers. A stop that waits
is two steps, lowering the running flag and joining the thread, and a thread that was told to stop
goes on until it tests the flag again.
-/

set_option autoImplicit false

namespace PairedAudio.Takeover

open Audio (Format)
open Capture (Tone ToneRun)
open Cipher (IvSource Key)
open Wire (Command Settings)

inductive Stage
  | testing
  | sleeping
  | listening
  | building
  | calling (chunk : List UInt8)
  | sending (packet : List UInt8)
  | ended
  deriving DecidableEq

/-- The capture thread that the start of a handshake has spawned. -/
structure Thread where
  handshake : Nat
  run : ToneRun
  /-- The running flag, once it is no longer the one of the capture. -/
  flag : Option Bool := none
  stage : Stage := .testing

namespace Thread

def isAlive (t : Thread) : Bool := t.stage ≠ .ended

/-- A start gives the capture a flag of its own, and leaves the flag that there was to the threads
that test it. -/
def detach (running : Bool) (t : Thread) : Thread := { t with flag := some (t.flag.getD running) }

end Thread

inductive Phase
  | locking
  | stopping
  | joining
  | ending
  | preparing
  | replying
  | connecting
  | starting
  | beginning
  deriving DecidableEq

structure Request where
  number : Nat
  circumstances : Circumstances
  /-- How the spawning of its capture thread fails. -/
  spawn : Option OsError
  settings : Settings
  port : UInt16
  sender : SocketAddress
  phase : Phase := .locking

def Request.client (r : Request) : SocketAddress := ⟨r.sender.ip, r.port⟩

inductive Duty
  | locking
  | carrying
  | acknowledging
  | relocking
  | silencing
  deriving DecidableEq

structure Order where
  circumstances : Circumstances
  command : Command
  sender : SocketAddress
  duty : Duty := .locking

/-- What the order of events is about, each by the number of the handshake that it belongs to. -/
inductive Occurrence
  /-- The stop that the handshake begins with has returned. -/
  | cleared (handshake : Nat)
  /-- The capture has started for a client. This completes the handshake: nothing after it can fail. -/
  | started (handshake : Nat) (client : SocketAddress)
  /-- The thread of the handshake's run has sent a chunk. -/
  | sent (handshake : Nat) (datagram : Datagram)
  deriving DecidableEq

structure System where
  server : Server Tone
  threads : List Thread := []
  /-- The thread that the capture has not joined yet. -/
  handle : Option Nat := none
  /-- The worker that holds the lock of the pairing. -/
  holder : Option Worker := none
  request : Option Request := none
  order : Option Order := none
  handshakes : Nat := 0
  /-- Newest first. -/
  history : List Occurrence := []

inductive Move
  | ask (c : Circumstances) (spawn : Option OsError) (packet : List UInt8) (sender : SocketAddress)
  | handshake
  | order (c : Circumstances) (packet : List UInt8) (sender : SocketAddress)
  | command
  /-- The error is that of sending, if this is what the thread does next. -/
  | thread (handshake : Nat) (send : Option OsError)

namespace System

def initial (key : Key) (format : Format) (commandPort : UInt16)
    (frequency amplitude : Audio.Binary32) (ivs : IvSource) : System where
  server := Server.initial Tone.device key format commandPort { frequency, amplitude } ivs

def tone (s : System) : Tone := s.server.pairing.device

def withTone (tone : Tone) (s : System) : System := { s with server := s.server.withDevice tone }

def awaits (s : System) : Bool :=
  s.threads.any fun t => s.handle == some t.handshake && t.isAlive

section Handshake

variable (r : Request) (s : System)

def ask (c : Circumstances) (spawn : Option OsError) (packet : List UInt8) (sender : SocketAddress)
    (s : System) : System :=
  -- A worker handles one datagram after the other.
  if s.request.isSome then s
  else match Handshake.read packet s.server with
    | .error _ server => { s with server }
    | .ok (settings, port) server =>
      { s with
        server
        request := some { number := s.handshakes, circumstances := c, spawn, settings, port, sender }
        handshakes := s.handshakes + 1 }

def proceed (phase : Phase) : System := { s with request := some { r with phase } }

def release : System := { s with request := none, holder := none }

def attempt (phase : Phase) (operation : Handler Tone Unit) : System :=
  match operation s.server with
  | .ok () server => proceed r { s with server } phase
  | .error _ server => release { s with server }

def join : System :=
  if s.awaits then s
  else proceed r { s.withTone { s.tone with run := none } with
    handle := none
    history := .cleared r.number :: s.history } .ending

def spawn : System :=
  if s.tone.format.isNone || s.tone.running then s.release
  -- A run that was stopped without waiting is joined first.
  else if s.awaits then s
  else
    let s := { s with threads := s.threads.map (Thread.detach s.tone.running), handle := none }
    match Tone.start r.spawn s.tone with
    | .error _ tone => (s.withTone tone).release
    | .ok () tone =>
      proceed r { s.withTone tone with
        threads := s.threads ++ tone.run.toList.map fun run => { handshake := r.number, run }
        handle := some r.number
        history := .started r.number r.client :: s.history } .beginning

def stepHandshake : System :=
  match s.request with
  | none => s
  | some r => match r.phase with
    | .locking => if s.holder.isSome then s else proceed r { s with holder := some .control } .stopping
    | .stopping => proceed r (s.withTone s.tone.requestStop) .joining
    | .joining => join r s
    | .ending =>
      let pairing := { s.server.pairing with session := none }
      proceed r { s with server := { s.server with pairing } } .preparing
    | .preparing => attempt r s .replying (Handler.onDevice (Tone.device.prepare s.server.format))
    | .replying =>
      attempt r s .connecting (Handshake.respond Tone.device r.circumstances r.settings r.sender)
    | .connecting => attempt r s .starting (Handshake.connect r.circumstances r.client)
    | .starting => spawn r s
    | .beginning => release { s with server := Handshake.begin r.circumstances r.client s.server }

end Handshake

section Command

variable (s : System)

def receiveOrder (c : Circumstances) (packet : List UInt8) (sender : SocketAddress) (s : System) :
    System :=
  if s.order.isSome then s
  else match Control.read packet s.server with
    | .error _ server => { s with server }
    | .ok command server =>
      { s with server, order := some { circumstances := c, command, sender } }

def lockFor (o : Order) (duty : Duty) : System :=
  -- Whoever finds the lock taken tries again.
  if s.holder.isSome then s
  else { s with holder := some .command, order := some { o with duty } }

def stepCommand : System :=
  match s.order with
  | none => s
  | some o => match o.duty with
    | .locking => s.lockFor o .carrying
    | .carrying => match Control.carryOut Tone.device o.command s.server with
      | .error _ server => { s with server, holder := none, order := none }
      | .ok () server =>
        { s with server, holder := none, order := some { o with duty := .acknowledging } }
    | .acknowledging => match Handler.sealPacket .command o.command.encode s.server with
      | .error _ server => { s with server, order := none }
      | .ok packet server => match o.circumstances.ack with
        | none => { s with server := Handler.recordSent o.sender packet server, order := none }
        | some _ => { s with server, order := some { o with duty := .relocking } }
    | .relocking => s.lockFor o .silencing
    | .silencing =>
      { s with server := Control.silence Tone.device s.server, holder := none, order := none }

end Command

section Thread

variable (s : System)

def put (t : Thread) : System :=
  { s with threads := s.threads.map fun other => if other.handshake = t.handshake then t else other }

def turn (t : Thread) (send : Option OsError) : System :=
  match t.stage with
  | .testing => s.put { t with stage := if t.flag.getD s.tone.running then .sleeping else .ended }
  | .sleeping => s.put { t with stage := .listening }
  | .listening =>
    s.put { t with
      stage := if s.tone.playing && t.run.listener.isSome then .building else .testing }
  | .building => s.put { t with run := t.run.advance, stage := .calling t.run.chunk }
  | .calling chunk => match s.server.sealChunk chunk with
    | (.error _, server) => put { s with server } { t with stage := .testing }
    | (.ok packet, server) => put { s with server } { t with stage := .sending packet }
  | .sending packet => match s.server.transmit send packet with
    | (.sent datagram, server) =>
      put { s with server, history := .sent t.handshake datagram :: s.history }
        { t with stage := .testing }
    | (_, server) => put { s with server } { t with stage := .testing }
  | .ended => s

def stepThread (handshake : Nat) (send : Option OsError) : System :=
  match s.threads.find? fun t => t.handshake == handshake with
  | none => s
  | some t => s.turn t send

end Thread

/-- One move. Whoever has nothing to do, or has to wait, leaves the system as it is. -/
def step (s : System) : Move → System
  | .ask c spawn packet sender => s.ask c spawn packet sender
  | .handshake => s.stepHandshake
  | .order c packet sender => s.receiveOrder c packet sender
  | .command => s.stepCommand
  | .thread handshake send => s.stepThread handshake send

def run (s : System) : List Move → System
  | [] => s
  | move :: rest => (s.step move).run rest

end System

end PairedAudio.Takeover
