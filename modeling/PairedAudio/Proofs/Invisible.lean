import PairedAudio.Proofs.Backend
import PairedAudio.Proofs.Refusal
import PairedAudio.Proofs.Run

/-! Traffic that cannot be decoded leaves no trace.

A worker keeps two things of a datagram that it refuses: the bytes in its buffer, and the vector that
its framer was armed with. Neither is ever read again, for a receive writes over the front of the
buffer and hands on only what it wrote, and opening and sealing arm a vector of their own first. So
servers that are alike but for these do the same, and the run with such traffic and the run without
it show the same after each step that they share.
-/

set_option autoImplicit false

namespace PairedAudio

open Capture (Calls Device Fault Tone Watched)
open Cipher (Block IvSource Key)
open Wire (Settings)

variable {σ : Type}

/-- A worker without what it keeps of datagrams. A server that does not run calls for nothing but a
worker's end, so then it does not matter which workers have ended. -/
def WorkerState.wiped (running : Bool) (w : WorkerState) : WorkerState :=
  ⟨w.framer.disarmed, [], !running || w.ended⟩

namespace Server

def wiped (s : Server σ) : Server σ :=
  { s with control := s.control.wiped s.running, command := s.command.wiped s.running }

def Alike (s t : Server σ) : Prop := s.wiped = t.wiped

theorem Alike.sent {s t : Server σ} (alike : s.Alike t) : s.sent = t.sent :=
  congrArg (fun s => s.sent) alike

theorem Alike.worker_key {s t : Server σ} (alike : s.Alike t) (w : Worker) :
    (s.worker w).framer.codec.key = (t.worker w).framer.codec.key := by
  cases w with
  | control => exact congrArg (fun s => s.control.framer.codec.key) alike
  | command => exact congrArg (fun s => s.command.framer.codec.key) alike

theorem Alike.worker_ended {s t : Server σ} (alike : s.Alike t) (running : s.running = true)
    (w : Worker) : (s.worker w).ended = (t.worker w).ended := by
  have same : s.running = t.running := congrArg (fun s => s.running) alike
  cases w with
  | control =>
    have ended := congrArg (fun s => s.control.ended) alike
    simp only [wiped, WorkerState.wiped, ← same, running, Bool.not_true, Bool.false_or] at ended
    exact ended
  | command =>
    have ended := congrArg (fun s => s.command.ended) alike
    simp only [wiped, WorkerState.wiped, ← same, running, Bool.not_true, Bool.false_or] at ended
    exact ended

@[simp] theorem wiped_store (s : Server σ) (w : Worker) (bytes : List UInt8) :
    (s.store w bytes).wiped = s.wiped := by cases w <;> rfl

@[simp] theorem wiped_opened (s : Server σ) (w : Worker) (packet : List UInt8) :
    (s.opened w packet).wiped = s.wiped := by
  have disarmed (framer : Framer) : (framer.afterOpening packet).disarmed = framer.disarmed := by
    unfold Framer.afterOpening
    split <;> rfl
  cases w <;> simp only [wiped, opened, setWorker, worker, WorkerState.wiped, disarmed]

theorem wiped_sealing (s : Server σ) (w : Worker) :
    (s.sealing w).wiped = { s.wiped with ivs := s.ivs.draw.2 } := by cases w <;> rfl

theorem wiped_endWorker (s : Server σ) (w : Worker) :
    (s.endWorker w).wiped = (s.wiped.endWorker .control).endWorker .command := by cases w <;> rfl

theorem wiped_endWorker_of_stopped {s : Server σ} (stopped : s.running = false) (w : Worker) :
    (s.endWorker w).wiped = s.wiped := by
  rw [wiped_endWorker]
  unfold wiped
  simp only [stopped]
  rfl

end Server

namespace Handler

variable {α β : Type}

inductive Alike : EStateM.Result HandlerFault (Server σ) α → EStateM.Result HandlerFault (Server σ) α →
    Prop
  | ok (value : α) {s t : Server σ} (alike : s.Alike t) : Alike (.ok value s) (.ok value t)
  | error (fault : HandlerFault) {s t : Server σ} (alike : s.Alike t) :
    Alike (.error fault s) (.error fault t)

/-- An operation that does not see what the workers keep of datagrams. -/
def Blind (x : Handler σ α) : Prop := ∀ s t : Server σ, s.Alike t → Alike (x s) (x t)

theorem Blind.bind {x : Handler σ α} {next : α → Handler σ β} (first : Blind x)
    (second : ∀ value, Blind (next value)) : Blind (x >>= next) := by
  intro s t alike
  have same := first s t alike
  generalize left : x s = r, right : x t = r' at same
  cases same with
  | ok value alike =>
    rw [bind_ok left, bind_ok right]
    exact second value _ _ alike
  | error fault alike =>
    rw [bind_error left, bind_error right]
    exact .error fault alike

theorem Blind.pure (value : α) : Blind (Pure.pure value : Handler σ α) :=
  fun _ _ alike => .ok value alike

theorem Blind.throw (fault : HandlerFault) : Blind (MonadExcept.throw fault : Handler σ α) :=
  fun _ _ alike => .error fault alike

theorem Blind.decoded (outcome : Except CodecError α) : Blind (decoded outcome : Handler σ α) := by
  cases outcome with
  | ok value => exact .pure value
  | error e => exact .throw _

theorem Blind.modify {change : Server σ → Server σ}
    (commutes : ∀ s, (change s).wiped = change s.wiped) : Blind (modify change : Handler σ Unit) := by
  intro s t alike
  refine .ok () ?_
  rw [Server.Alike, commutes, commutes, alike]

theorem Blind.get {next : Server σ → Handler σ α} (blind : ∀ s, Blind (next s))
    (same : ∀ s t, s.Alike t → next s = next t) : Blind (MonadState.get >>= next) := by
  intro s t alike
  rw [bind_ok (get_eq s), bind_ok (get_eq t), same s t alike]
  exact blind t s t alike

theorem Blind.onDevice (operation : EStateM Fault σ Unit) : Blind (onDevice operation) := by
  intro s t alike
  have device : s.pairing.device = t.pairing.device := congrArg (fun s => s.pairing.device) alike
  have left (device : σ) : (s.withDevice device).Alike (t.withDevice device) :=
    congrArg (Server.withDevice device) alike
  cases result : operation s.pairing.device with
  | ok done d =>
    rw [onDevice_ok result, onDevice_ok (device ▸ result)]
    exact .ok () (left d)
  | error fault d =>
    rw [onDevice_error result, onDevice_error (device ▸ result)]
    exact .error _ (left d)

theorem Blind.openPacket (w : Worker) (packet : List UInt8) :
    Blind (openPacket w packet : Handler σ (List UInt8)) := by
  intro s t alike
  have opened : (s.opened w packet).Alike (t.opened w packet) := by
    rw [Server.Alike, Server.wiped_opened, Server.wiped_opened, alike]
  rw [openPacket_eq, openPacket_eq, alike.worker_key w]
  split
  · exact .ok _ opened
  · exact .error _ opened

theorem Blind.sealPacket (w : Worker) (plain : List UInt8) :
    Blind (sealPacket w plain : Handler σ (List UInt8)) := by
  intro s t alike
  have ivs : s.ivs = t.ivs := congrArg (fun s => s.ivs) alike
  have sealing : (s.sealing w).Alike (t.sealing w) := by
    rw [Server.Alike, Server.wiped_sealing, Server.wiped_sealing, alike, ivs]
  have packet : s.packetFor w plain = t.packetFor w plain := by
    rw [Server.packetFor, Server.packetFor, alike.worker_key w, ivs]
  rw [sealPacket_eq, sealPacket_eq, packet]
  exact .ok _ sealing

end Handler

open Handler (Blind)

namespace Handshake

theorem blind_read (packet : List UInt8) :
    Blind (read packet : Handler σ (Settings × UInt16)) := by
  unfold read
  refine .bind (.openPacket .control packet) fun plain => ?_
  refine .bind (.decoded (Settings.decode plain)) fun request => ?_
  exact .bind (.decoded request.audioPort) fun port => .pure (request, port)

theorem blind_reply (c : Circumstances) (sender : SocketAddress) (packet : List UInt8) :
    Blind (reply c sender packet : Handler σ Unit) := by
  intro s t alike
  unfold reply
  cases c.reply with
  | none => exact .ok () (congrArg (Handler.recordSent sender packet) alike)
  | some e => exact .error _ alike

theorem blind_respond (backend : Device σ) (c : Circumstances) (request : Settings)
    (sender : SocketAddress) : Blind (respond backend c request sender) := by
  unfold respond
  refine .get (fun s => ?_) fun s t alike => ?_
  · cases answer request (backend.advertised s.pairing.device) s.commandPort with
    | error e => exact .throw _
    | ok settings => exact .bind (.sealPacket .control _) (blind_reply c sender)
  · have device : s.pairing.device = t.pairing.device := congrArg (fun s => s.pairing.device) alike
    have port : s.commandPort = t.commandPort := congrArg (fun s => s.commandPort) alike
    rw [device, port]

theorem blind_connect (c : Circumstances) (client : SocketAddress) :
    Blind (connect c client : Handler σ Unit) := by
  intro s t alike
  unfold connect
  cases c.connect with
  | none => exact .ok () (congrArg (Server.aimed client) alike)
  | some e => exact .error _ alike

theorem blind_pair (backend : Device σ) (c : Circumstances) (request : Settings) (port : UInt16)
    (sender : SocketAddress) : Blind (pair backend c request port sender) := by
  unfold pair
  refine .bind (.modify fun _ => rfl) fun _ => ?_
  refine .get (fun s => ?_) fun s t alike => ?_
  · refine .bind (.onDevice _) fun _ => ?_
    refine .bind (blind_respond backend c request sender) fun _ => ?_
    refine .bind (blind_connect c _) fun _ => ?_
    exact .bind (.onDevice backend.start) fun _ => .modify fun _ => rfl
  · have format : s.format = t.format := congrArg (fun s => s.format) alike
    rw [format]

end Handshake

theorem Control.blind_carryOut (backend : Device σ) (command : Wire.Command) :
    Blind (carryOut backend command) := by
  cases command with
  | ping => exact .pure ()
  | play => exact .bind (.onDevice _) fun _ => .modify fun _ => rfl
  | pause => exact .bind (.onDevice _) fun _ => .modify fun _ => rfl
  | stop => exact .bind (.modify fun _ => rfl) fun _ => .modify fun _ => rfl

theorem Control.blind_handle (backend : Device σ) (c : Circumstances) (packet : List UInt8)
    (sender : SocketAddress) : Blind (handle backend c packet sender) := by
  unfold handle
  refine .bind (.bind (.openPacket .command packet) fun plain => .decoded _) fun command => ?_
  refine .bind (blind_carryOut backend command) fun _ => ?_
  refine .bind (.sealPacket .command _) fun reply => ?_
  cases c.ack with
  | none => exact .bind (.modify fun _ => rfl) fun _ => .pure none
  | some e => exact .bind (.modify fun _ => rfl) fun _ => .pure (some e)

namespace Server

theorem blind_handle (backend : Device σ) (w : Worker) (c : Circumstances) (packet : List UInt8)
    (sender : SocketAddress) : Blind (handle backend w c packet sender) := by
  cases w with
  | control =>
    refine .bind (.bind (Handshake.blind_read packet) fun asked => ?_) fun _ => .pure none
    exact Handshake.blind_pair backend c asked.1 asked.2 sender
  | command => exact Control.blind_handle backend c packet sender

section Alike

variable {backend : Device σ} {s t : Server σ}

theorem settle_alike (w : Worker) {α : Type} {left right : EStateM.Result HandlerFault (Server σ) α}
    (same : Handler.Alike left right) : (settle w left).Alike (settle w right) := by
  cases same with
  | ok value alike => exact alike
  | error fault alike =>
    cases fault with
    | failed e => exact alike
    | crashed =>
      simp only [settle, Alike, wiped_endWorker]
      rw [alike]

theorem receive_alike_of_stopped (backend : Device σ) (stopped : s.running = false) (w : Worker)
    (c : Circumstances) (arrival : Arrival) : (s.receive backend w c arrival).2.Alike s := by
  cases awake : (s.worker w).ended with
  | true => rw [receive_ended awake, Alike]
  | false =>
    cases arrival with
    | failure e =>
      rw [receive_failure awake]
      split
      · rfl
      · exact wiped_endWorker_of_stopped stopped w
    | datagram bytes sender =>
      have still : (s.store w (bytes.take receiveLength)).running = false := by
        rw [store, setWorker_running, stopped]
      rw [receive_datagram_exiting stopped awake, Alike, wiped_endWorker_of_stopped still, wiped_store]

theorem Alike.receive (alike : s.Alike t) (w : Worker) (c : Circumstances) (arrival : Arrival) :
    (s.receive backend w c arrival).2.Alike (t.receive backend w c arrival).2 := by
  have runs : s.running = t.running := congrArg (fun s => s.running) alike
  cases running : s.running with
  | false =>
    have left := receive_alike_of_stopped backend running w c arrival
    have right := receive_alike_of_stopped backend (runs.symm.trans running) w c arrival
    exact (left.trans alike).trans right.symm
  | true =>
    have same := alike.worker_ended running w
    cases awake : (s.worker w).ended with
    | true =>
      rw [receive_ended awake, receive_ended (same.symm.trans awake)]
      exact alike
    | false =>
      cases arrival with
      | failure e =>
        rw [receive_failure awake, receive_failure (same.symm.trans awake)]
        split
        · exact alike
        · rw [Alike, wiped_endWorker, wiped_endWorker, alike]
      | datagram bytes sender =>
        rw [receive_datagram running awake,
          receive_datagram (runs.symm.trans running) (same.symm.trans awake)]
        refine settle_alike w (blind_handle backend w c _ sender _ _ ?_)
        rw [Alike, wiped_store, wiped_store, alike]

theorem wiped_emit (send : Option OsError) (chunk : List UInt8) (s : Server σ) :
    (s.emit send chunk).2.wiped = (s.wiped.emit send chunk).2 := by
  unfold emit sealChunk transmit
  simp only [wiped]
  cases (s.audio.framer.encodeInto chunk s.audio.scratch s.ivs).1.outcome with
  | error e => rfl
  | ok length =>
    simp only [Except.map]
    cases s.pairing.destination <;> cases send <;> rfl

theorem Alike.shutdown (alike : s.Alike t) : (s.shutdown backend).Alike (t.shutdown backend) := by
  have same : s.closed = t.closed := congrArg (fun s => s.closed) alike
  unfold Server.shutdown
  rw [same]
  split
  · exact alike
  · have halted : (s.halt backend).Alike (t.halt backend) := congrArg (halt backend) alike
    have ended : (((s.halt backend).endWorker .control).endWorker .command).Alike
        (((t.halt backend).endWorker .control).endWorker .command) := by
      simp only [Alike, wiped_endWorker]
      rw [halted]
    exact congrArg (fun s : Server σ => { s with closed := true }) ended

theorem Alike.step (alike : s.Alike t) (event : Event) :
    (s.step backend event).Alike (t.step backend event) := by
  cases event with
  | arrival w c arrival => exact alike.receive w c arrival
  | chunk send bytes =>
    rw [Alike, Server.step, Server.step, wiped_emit, wiped_emit, alike]
  | shutdown => exact alike.shutdown

end Alike

end Server

/-- What a worker passes over: a datagram that it cannot decode, cut to the length of its buffer, or
the failure that the network reports when an earlier datagram of the server's found nobody. -/
inductive Noise (key : Block) : Event → Prop
  | undecodable {w : Worker} {c : Circumstances} {bytes : List UInt8} {sender : SocketAddress}
      (undecodable : Undecodable key w (bytes.take receiveLength)) :
      Noise key (.arrival w c (.datagram bytes sender))
  | reset {w : Worker} {c : Circumstances} : Noise key (.arrival w c (.failure .connectionReset))

namespace Server

theorem step_noise (backend : Device σ) {key : Key} {s : Server σ} (sound : s.Sound key) {event : Event}
    (noise : Noise key.block event) : (s.step backend event).Alike s := by
  cases running : s.running with
  | false => cases noise <;> exact receive_alike_of_stopped backend running _ _ _
  | true =>
    cases noise with
    | @reset w c =>
      cases awake : (s.worker w).ended with
      | true => rw [step, receive_ended awake, Alike]
      | false => rw [step, receive_failure awake, if_pos rfl, Alike]
    | @undecodable w c bytes sender undecodable =>
      cases awake : (s.worker w).ended with
      | true => rw [step, receive_ended awake, Alike]
      | false =>
        -- The worker opens with the server's key what it has just stored.
        have key : ((s.store w (bytes.take receiveLength)).worker w).framer.codec.key = key.block := by
          rw [store, worker_setWorker]
          exact sound.worker w
        obtain ⟨e, refused⟩ := handle_undecodable backend c sender key undecodable
        rw [step, receive_datagram running awake, refused, settle, Alike, wiped_opened, wiped_store]

end Server

/-- A step of a run, by whether it belongs to it or was put in. -/
inductive Step
  | own (event : Event)
  | inserted (event : Event)

def Step.isOwn : Step → Bool
  | own _ => true
  | inserted _ => false

/-- What a server shows of itself, its backend and its network. -/
structure View where
  sent : List Datagram
  drawn : Nat
  calls : Calls
  session : Option Session
  destination : Option SocketAddress
  running : Bool
  deriving DecidableEq

namespace Server

def view (s : Server (Watched σ Calls)) : View where
  sent := s.sent
  drawn := s.ivs.drawn
  calls := s.pairing.device.seen
  session := s.session
  destination := s.pairing.destination
  running := s.isRunning

/-- What a server shows after each step of the run itself. -/
def views (backend : Device (Watched σ Calls)) : Server (Watched σ Calls) → List Step → List View
  | _, [] => []
  | s, .own event :: rest => (s.step backend event).view :: views backend (s.step backend event) rest
  | s, .inserted event :: rest => views backend (s.step backend event) rest

theorem Alike.views {backend : Device (Watched σ Calls)} {s t : Server (Watched σ Calls)}
    (alike : s.Alike t) (steps : List Step) : s.views backend steps = t.views backend steps := by
  induction steps generalizing s t with
  | nil => rfl
  | cons step rest ih =>
    cases step with
    | own event =>
      have view : (s.step backend event).view = (t.step backend event).view :=
        congrArg (fun s => s.view) (alike.step event)
      rw [Server.views, Server.views, view, ih (alike.step event)]
    | inserted event => exact ih (alike.step event)

theorem views_of_noise {backend : Device (Watched σ Calls)} {key : Key}
    {s : Server (Watched σ Calls)} (sound : s.Sound key) (steps : List Step)
    (noise : ∀ event, .inserted event ∈ steps → Noise key.block event) :
    s.views backend steps = s.views backend (steps.filter Step.isOwn) := by
  -- Over the steps, for every sound server: noise leaves one that is alike, and shows the same.
  induction steps generalizing s with
  | nil => rfl
  | cons step rest ih =>
    have later (event : Event) (present : .inserted event ∈ rest) : Noise key.block event :=
      noise event (List.mem_cons_of_mem step present)
    cases step with
    | own event =>
      have kept := (sound_kept backend key).step event sound
      rw [List.filter_cons_of_pos (by rfl), views, views, ih kept later]
    | inserted event =>
      have kept := (sound_kept backend key).step event sound
      have quiet := step_noise backend sound (noise event List.mem_cons_self)
      rw [List.filter_cons_of_neg (by simp [Step.isOwn]), views, ih kept later]
      exact quiet.views _

/-- After each of its own steps, a run with noise put in anywhere shows what it shows without. -/
theorem noise_invisible {backend : Device σ} {config : Config} {device : σ} {commandPort : UInt16}
    {ivs : IvSource} {setup : Setup} {s : Server (Watched σ Calls)}
    (started : start backend.recorded config ⟨device, []⟩ commandPort ivs setup = .ok s)
    (steps : List Step) (noise : ∀ event, .inserted event ∈ steps → Noise s.key.block event) :
    s.views backend.recorded steps = s.views backend.recorded (steps.filter Step.isOwn) :=
  views_of_noise (sound_of_start started) steps noise

/-- A client that pairs with the standard tone while others send bytes that are no packets. -/
theorem noise_invisible_standard_tone :
    let server := Standard.server Tone.device.recorded ⟨.standard, []⟩
    let stranger : SocketAddress := ⟨⟨10, 0, 0, 8⟩, 40001⟩
    let steps : List Step := [
      .inserted (.arrival .control {} (.datagram [1, 2, 3] stranger)),
      .own (.arrival .control {} (.datagram Standard.request Standard.client)),
      .inserted (.arrival .command {} (.failure .connectionReset)),
      .inserted (.arrival .command {} (.datagram (List.replicate 20 0) stranger)),
      .own .shutdown]
    start Tone.device.recorded Standard.config ⟨.standard, []⟩ 5541 (.seeded default) {} =
        .ok server ∧
      (∀ event, .inserted event ∈ steps → Noise server.key.block event) ∧
      server.views Tone.device.recorded steps =
        server.views Tone.device.recorded (steps.filter Step.isOwn) := by
  intro server stranger steps
  have started : start Tone.device.recorded Standard.config ⟨.standard, []⟩ 5541 (.seeded default) {} =
      .ok server := Standard.start ..
  have noise (event : Event) (present : .inserted event ∈ steps) : Noise server.key.block event := by
    simp only [steps, List.mem_cons, Step.inserted.injEq, reduceCtorEq, List.not_mem_nil, false_or,
      or_false] at present
    rcases present with rfl | rfl | rfl
    · exact .undecodable (.unopenable (.short (by decide)))
    · exact .reset
    · exact .undecodable (.unopenable (.unaligned (by decide)))
  exact ⟨started, noise, noise_invisible started steps noise⟩

end Server

end PairedAudio
