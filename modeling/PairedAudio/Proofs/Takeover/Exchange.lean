import PairedAudio.Proofs.Courses
import PairedAudio.Proofs.Takeover.System

/-! Takeovers and shutdowns with the replies that were sent.

The system is let run in any order of its moves and of the steps of a shutdown, and beside it stands
what each handshake has replied. The first client of a server meets nobody: its handshake runs from
the request to the start of a thread, and one turn of the thread's loop sends a packet.
-/

set_option autoImplicit false

namespace PairedAudio.Takeover

open Audio (Format framesPerPeriod)
open Capture (Tone ToneRun)
open Wire (Settings)

inductive Turn
  | move (m : Move)
  | shutdown

/-- A shutdown takes the lock like a worker, and stops the capture as a handshake does. -/
def System.shutdown (s : System) : System :=
  if s.holder.isSome then s
  else if s.awaits then s.withTone s.tone.requestStop
  else { s with server := s.server.halt Tone.device, handle := none }

def System.next (s : System) : Turn → System
  | .move m => s.step m
  | .shutdown => s.shutdown

/-- The system with the replies that were sent, each with the number of its handshake. -/
structure Exchange where
  system : System
  replies : List (Nat × Datagram) := []

theorem sent_attempt {r : Request} {s : System} {phase : Phase} {operation : Handler Tone Unit}
    (silent : (Handler.after (operation s.server)).sent = s.server.sent) :
    (System.attempt r s phase operation).server.sent = s.server.sent := by
  unfold System.attempt
  cases result : operation s.server with
  | ok done server | error fault server =>
    rw [result] at silent
    exact silent

/-- A handshake sends nothing but its reply. -/
theorem sent_stepHandshake {s : System} {r : Request} (present : s.request = some r)
    (quiet : r.phase ≠ .replying) : s.stepHandshake.server.sent = s.server.sent := by
  simp only [System.stepHandshake, present]
  cases phase : r.phase with
  | locking =>
    simp only
    split <;> rfl
  | stopping | ending | beginning => rfl
  | joining =>
    simp only [System.join]
    split <;> rfl
  | preparing =>
    refine sent_attempt ?_
    cases result : Tone.device.prepare s.server.format s.server.pairing.device with
    | ok done device => rw [Handler.onDevice_ok result, Handler.after, Server.withDevice_sent]
    | error fault device => rw [Handler.onDevice_error result, Handler.after, Server.withDevice_sent]
  | replying => exact absurd phase quiet
  | connecting =>
    refine sent_attempt ?_
    cases connected : r.circumstances.connect with
    | none => rw [Handshake.connect_ok connected, Handler.after, Server.aimed_sent]
    | some e => rw [Handshake.connect_error connected, Handler.after]
  | starting =>
    simp only [System.spawn]
    split
    · rfl
    split
    · rfl
    split <;> rfl

namespace Exchange

def step (x : Exchange) (turn : Turn) : Exchange where
  system := x.system.next turn
  replies := match turn, x.system.request with
    | .move .handshake, some r =>
      x.replies ++ ((x.system.next turn).server.sent.drop x.system.server.sent.length).map (r.number, ·)
    | _, _ => x.replies

def run (x : Exchange) (turns : List Turn) : Exchange := turns.foldl step x

theorem run_cons (x : Exchange) (turn : Turn) (rest : List Turn) :
    x.run (turn :: rest) = (x.step turn).run rest := rfl

theorem run_append (x : Exchange) (turns later : List Turn) :
    x.run (turns ++ later) = (x.run turns).run later := List.foldl_append

end Exchange

section First

/-! The handshake of the first client of a server. -/

variable {f : Format} {tone : Tone} {server : Server Tone} {r : Request}

def tuned (f : Format) (tone : Tone) : Tone := { tone with
  format := some f
  period := framesPerPeriod f.rate Tone.periodLength
  running := false
  run := none }

def firstRun (f : Format) (tone : Tone) : ToneRun where
  listener := tone.listener
  format := f
  frames := (framesPerPeriod f.rate Tone.periodLength).toNat
  oscillator := .start tone.frequency tone.amplitude f.rate

def streaming (f : Format) (tone : Tone) (server : Server Tone) (r : Request) : System :=
  let playing : Tone :=
    { tuned f tone with running := true, playing := true, run := some (firstRun f tone) }
  { server := Handshake.begin r.circumstances r.client ((server.withDevice playing).aimed r.client)
    threads := [{ handshake := r.number, run := firstRun f tone }]
    handle := some r.number
    handshakes := 1
    history := [.started r.number r.client, .cleared r.number] }

theorem step_asking {settings : Settings} {port : UInt16} {packet : List UInt8}
    (asks : Handshake.requestIn server.control.framer.codec.key packet = .ok (settings, port))
    (sender : SocketAddress) :
    Exchange.step { system := { server } } (.move (.ask {} none packet sender)) =
      { system := {
          server := server.opened .control packet
          request := some { number := 0, circumstances := {}, spawn := none, settings, port, sender }
          handshakes := 1 } } := by
  simp [Exchange.step, System.next, System.step, System.ask, Handshake.read_eq, asks]

theorem run_preparing (valid : f.validate = .ok ()) (locking : r.phase = .locking)
    (device : server.pairing.device = tone) (served : server.format = f) :
    Exchange.run { system := { server, request := some r, handshakes := 1 } }
        (List.replicate 5 (.move .handshake)) =
      { system := {
          server := server.unpaired (tuned f tone)
          request := some { r with phase := .replying }
          holder := some .control
          handshakes := 1
          history := [.cleared r.number] } } := by
  simp [Exchange.run, Exchange.step, System.next, System.step, System.stepHandshake, System.proceed,
    locking, System.join, System.awaits, System.attempt, Tone.prepare_eq, valid, Handler.onDevice,
    System.withTone, System.tone, device, served, Server.withDevice, Server.unpaired, tuned,
    Tone.requestStop]

theorem step_replying {s : System} {settings : Settings} (present : s.request = some r)
    (replying : r.phase = .replying) (sent : r.circumstances.reply = none)
    (answers : Handshake.answer r.settings (Tone.device.advertised s.server.pairing.device)
      s.server.commandPort = .ok settings) :
    Exchange.step { system := s } (.move .handshake) =
      { system := { s with
          server := s.server.answered .control r.sender settings.encode
          request := some { r with phase := .connecting } }
        replies := [(r.number, ⟨r.sender, s.server.packetFor .control settings.encode⟩)] } := by
  simp [Exchange.step, System.next, System.step, System.stepHandshake, System.proceed, present, replying,
    System.attempt, Handshake.respond_ok answers sent]

theorem run_starting (connecting : r.phase = .connecting) (spawns : r.spawn = none)
    (connected : r.circumstances.connect = none) (device : server.pairing.device = tuned f tone)
    (replies : List (Nat × Datagram)) :
    Exchange.run {
        system := {
          server
          request := some r
          holder := some .control
          handshakes := 1
          history := [.cleared r.number] }
        replies } (List.replicate 3 (.move .handshake)) =
      { system := streaming f tone server r, replies } := by
  simp [Exchange.run, Exchange.step, System.next, System.step, System.stepHandshake, System.proceed,
    connecting, System.attempt, Handshake.connect, connected, System.spawn, System.tone, device, tuned,
    System.awaits, Tone.start, spawns, System.release, System.withTone, Server.withDevice, streaming,
    firstRun, Server.aimed, Request.client, Handshake.begin]

theorem run_pairing {settings : Settings} (valid : f.validate = .ok ()) (locking : r.phase = .locking)
    (spawns : r.spawn = none) (calm : r.circumstances = {}) (device : server.pairing.device = tone)
    (served : server.format = f)
    (answers : Handshake.answer r.settings (Tone.device.advertised (tuned f tone)) server.commandPort =
      .ok settings) :
    ∃ reply base, Exchange.run { system := { server, request := some r, handshakes := 1 } }
        (List.replicate 9 (.move .handshake)) =
      { system := streaming f tone base { r with phase := .connecting }
        replies := [(r.number, reply)] } := by
  -- The steps before the reply, the reply, and the steps behind it.
  have parts : List.replicate 9 (Turn.move .handshake) =
      List.replicate 5 (.move .handshake) ++
        .move .handshake :: List.replicate 3 (.move .handshake) := rfl
  have sent : r.circumstances.reply = none := by rw [calm]
  have connected : r.circumstances.connect = none := by rw [calm]
  let ready := server.unpaired (tuned f tone)
  let told := ready.answered .control r.sender settings.encode
  have tuned : told.pairing.device = tuned f tone := rfl
  refine ⟨⟨r.sender, ready.packetFor .control settings.encode⟩, told, ?_⟩
  rw [parts, Exchange.run_append, run_preparing valid locking device served, Exchange.run_cons,
    step_replying (r := { r with phase := .replying }) rfl rfl sent answers]
  exact run_starting (r := { r with phase := .connecting }) rfl spawns connected tuned _

theorem run_sounding {s : System} {n : Nat} {run : ToneRun} {listener : Capture.Listener}
    {client : SocketAddress} {packet : List UInt8} {sealed : Server Tone}
    (alone : s.threads = [{ handshake := n, run }]) (running : s.tone.running = true)
    (playing : s.tone.playing = true) (listens : run.listener = some listener)
    (sealing : s.server.sealChunk run.chunk = (.ok packet, sealed))
    (aimed : sealed.pairing.destination = some client) (replies : List (Nat × Datagram)) :
    let x := Exchange.run { system := s, replies } (List.replicate 6 (.move (.thread n none)))
    x.replies = replies ∧ .sent n ⟨client, packet⟩ ∈ x.system.history := by
  have running : s.server.pairing.device.running = true := running
  have playing : s.server.pairing.device.playing = true := playing
  simp [Exchange.run, Exchange.step, System.next, System.step, System.stepThread, System.turn, System.put,
    alone, System.tone, running, playing, listens, sealing, Server.transmit, aimed]

end First

end PairedAudio.Takeover
