import PairedAudio.Proofs.Packet
import PairedAudio.Server.Receiver

/-! What the handlers of datagrams can do: one law for each of their steps, and every exit of the two
handlers with the state that it leaves.

What a datagram asks for depends on the server's key only, and reading it changes nothing but the
worker's own framer and buffer.
-/

set_option autoImplicit false

namespace PairedAudio

open Capture (Device Fault)
open Cipher (Block)
open Wire (Command Settings)

variable {σ : Type}

namespace Server

section Worker

variable (s : Server σ) (w : Worker) (state : WorkerState)

@[simp] theorem setWorker_key : (s.setWorker w state).key = s.key := by cases w <;> rfl

@[simp] theorem setWorker_format : (s.setWorker w state).format = s.format := by cases w <;> rfl

@[simp] theorem setWorker_commandPort : (s.setWorker w state).commandPort = s.commandPort := by
  cases w <;> rfl

@[simp] theorem setWorker_pairing : (s.setWorker w state).pairing = s.pairing := by cases w <;> rfl

@[simp] theorem setWorker_audio : (s.setWorker w state).audio = s.audio := by cases w <;> rfl

@[simp] theorem setWorker_ivs : (s.setWorker w state).ivs = s.ivs := by cases w <;> rfl

@[simp] theorem setWorker_running : (s.setWorker w state).running = s.running := by cases w <;> rfl

@[simp] theorem setWorker_closed : (s.setWorker w state).closed = s.closed := by cases w <;> rfl

@[simp] theorem setWorker_sessions : (s.setWorker w state).sessions = s.sessions := by cases w <;> rfl

@[simp] theorem setWorker_sent : (s.setWorker w state).sent = s.sent := by cases w <;> rfl

@[simp] theorem worker_setWorker : (s.setWorker w state).worker w = state := by cases w <;> rfl

end Worker

def opened (w : Worker) (packet : List UInt8) (s : Server σ) : Server σ :=
  s.setWorker w { s.worker w with
    framer := (s.worker w).framer.afterOpening packet
    buffer := overwrite ((s.worker w).framer.decodeInPlace packet).2 (s.worker w).buffer }

def packetFor (w : Worker) (plain : List UInt8) (s : Server σ) : List UInt8 :=
  Framer.sealed (s.worker w).framer.codec.key s.ivs.draw.1 plain

def sealing (w : Worker) (s : Server σ) : Server σ :=
  { s.setWorker w { s.worker w with framer := (s.worker w).framer.disarmed } with
    ivs := s.ivs.draw.2 }

def answered (w : Worker) (recipient : SocketAddress) (plain : List UInt8) (s : Server σ) :
    Server σ :=
  Handler.recordSent recipient (s.packetFor w plain) (s.sealing w)

def withDevice (device : σ) (s : Server σ) : Server σ :=
  { s with pairing := { s.pairing with device } }

def aimed (client : SocketAddress) (s : Server σ) : Server σ :=
  { s with pairing := { s.pairing with destination := some client } }

def unpaired (device : σ) (s : Server σ) : Server σ :=
  { s with pairing := { s.pairing with device, session := none } }

section Fields

variable (s : Server σ) (w : Worker) (packet plain : List UInt8) (recipient client : SocketAddress)
  (device : σ)

@[simp] theorem opened_format : (s.opened w packet).format = s.format := setWorker_format ..

@[simp] theorem opened_commandPort : (s.opened w packet).commandPort = s.commandPort :=
  setWorker_commandPort ..

@[simp] theorem opened_pairing : (s.opened w packet).pairing = s.pairing := setWorker_pairing ..

@[simp] theorem opened_sessions : (s.opened w packet).sessions = s.sessions := setWorker_sessions ..

@[simp] theorem opened_sent : (s.opened w packet).sent = s.sent := setWorker_sent ..

@[simp] theorem sealing_pairing : (s.sealing w).pairing = s.pairing := setWorker_pairing ..

@[simp] theorem sealing_sent : (s.sealing w).sent = s.sent := setWorker_sent ..

@[simp] theorem answered_pairing : (s.answered w recipient plain).pairing = s.pairing :=
  setWorker_pairing ..

@[simp] theorem answered_sessions : (s.answered w recipient plain).sessions = s.sessions :=
  setWorker_sessions ..

@[simp] theorem answered_sent :
    (s.answered w recipient plain).sent = s.sent ++ [⟨recipient, s.packetFor w plain⟩] := by
  cases w <;> rfl

@[simp] theorem unpaired_pairing :
    (s.unpaired device).pairing = ⟨device, none, s.pairing.destination⟩ := rfl

@[simp] theorem unpaired_sessions : (s.unpaired device).sessions = s.sessions := rfl

@[simp] theorem unpaired_sent : (s.unpaired device).sent = s.sent := rfl

@[simp] theorem withDevice_pairing :
    (s.withDevice device).pairing = { s.pairing with device } := rfl

@[simp] theorem withDevice_sessions : (s.withDevice device).sessions = s.sessions := rfl

@[simp] theorem withDevice_sent : (s.withDevice device).sent = s.sent := rfl

@[simp] theorem aimed_pairing :
    (s.aimed client).pairing = { s.pairing with destination := some client } := rfl

@[simp] theorem aimed_sessions : (s.aimed client).sessions = s.sessions := rfl

@[simp] theorem aimed_sent : (s.aimed client).sent = s.sent := rfl

end Fields

structure Frame (s t : Server σ) : Prop where
  running : t.running = s.running
  closed : t.closed = s.closed
  format : t.format = s.format
  commandPort : t.commandPort = s.commandPort

namespace Frame

theorem trans {s t u : Server σ} (first : Frame s t) (second : Frame t u) : Frame s u where
  running := second.running.trans first.running
  closed := second.closed.trans first.closed
  format := second.format.trans first.format
  commandPort := second.commandPort.trans first.commandPort

variable (s : Server σ) (w : Worker) (plain : List UInt8) (recipient client : SocketAddress) (device : σ)

theorem setWorker (state : WorkerState) : Frame s (s.setWorker w state) :=
  ⟨setWorker_running .., setWorker_closed .., setWorker_format .., setWorker_commandPort ..⟩

theorem store (bytes : List UInt8) : Frame s (s.store w bytes) := .setWorker ..

theorem opened (packet : List UInt8) : Frame s (s.opened w packet) := .setWorker ..

theorem sealing : Frame s (s.sealing w) :=
  ⟨setWorker_running .., setWorker_closed .., setWorker_format .., setWorker_commandPort ..⟩

theorem answered : Frame s (s.answered w recipient plain) :=
  ⟨setWorker_running .., setWorker_closed .., setWorker_format .., setWorker_commandPort ..⟩

theorem unpaired : Frame s (s.unpaired device) := ⟨rfl, rfl, rfl, rfl⟩

theorem withDevice : Frame s (s.withDevice device) := ⟨rfl, rfl, rfl, rfl⟩

theorem aimed : Frame s (s.aimed client) := ⟨rfl, rfl, rfl, rfl⟩

theorem begun (c : Circumstances) : Frame s (Handshake.begin c client s) := ⟨rfl, rfl, rfl, rfl⟩

end Frame

end Server

def HandlerFault.ofFault : Fault → HandlerFault
  | .refused e => .failed (.device e)
  | .crashed => .crashed

namespace Handler

variable {α β : Type} {x : Handler σ α} {next : α → Handler σ β} {s s' : Server σ}

theorem bind_ok {a : α} (first : x s = .ok a s') : (x >>= next) s = next a s' := by
  simp only [bind, EStateM.bind, first]

theorem bind_error {fault : HandlerFault} (first : x s = .error fault s') :
    (x >>= next) s = .error fault s' := by
  simp only [bind, EStateM.bind, first]

theorem modify_eq (change : Server σ → Server σ) (s : Server σ) :
    (modify change : Handler σ Unit) s = .ok () (change s) := rfl

theorem get_eq (s : Server σ) : (get : Handler σ (Server σ)) s = .ok s s := rfl

theorem openPacket_eq (w : Worker) (packet : List UInt8) (s : Server σ) :
    openPacket w packet s = match Framer.payload (s.worker w).framer.codec.key packet with
      | .ok plain => .ok plain (s.opened w packet)
      | .error e => .error (.failed (.decode e)) (s.opened w packet) := by
  have opening := (s.worker w).framer.decodeInPlace_fst packet
  unfold openPacket Server.opened
  cases result : (s.worker w).framer.decodeInPlace packet with
  | mk outcome left =>
    rw [result] at opening
    simp only at opening
    subst opening
    cases Framer.payload (s.worker w).framer.codec.key packet <;> rfl

theorem sealPacket_eq (w : Worker) (plain : List UInt8) (s : Server σ) :
    sealPacket w plain s = .ok (s.packetFor w plain) (s.sealing w) := rfl

theorem onDevice_ok {operation : EStateM Fault σ Unit} {device : σ}
    (done : operation s.pairing.device = .ok () device) :
    onDevice operation s = .ok () (s.withDevice device) := by
  simp only [onDevice, done, Server.withDevice]

theorem onDevice_error {operation : EStateM Fault σ Unit} {fault : Fault} {device : σ}
    (failed : operation s.pairing.device = .error fault device) :
    onDevice operation s = .error (.ofFault fault) (s.withDevice device) := by
  cases fault <;> simp only [onDevice, failed, HandlerFault.ofFault, Server.withDevice]

def after {α : Type} : EStateM.Result HandlerFault (Server σ) α → Server σ
  | .ok _ s => s
  | .error _ s => s

end Handler

namespace Handshake

def requestIn (key : Block) (packet : List UInt8) : Except CodecError (Settings × UInt16) := do
  let plain ← Framer.payload key packet
  let request ← Settings.decode plain
  let port ← request.audioPort
  return (request, port)

theorem read_eq (packet : List UInt8) (s : Server σ) :
    read packet s = match requestIn s.control.framer.codec.key packet with
      | .ok asked => .ok asked (s.opened .control packet)
      | .error e => .error (.failed (.decode e)) (s.opened .control packet) := by
  have opening := Handler.openPacket_eq .control packet s
  rw [show s.worker .control = s.control from rfl] at opening
  unfold read requestIn
  simp only [bind, EStateM.bind, opening]
  cases Framer.payload s.control.framer.codec.key packet with
  | error e => rfl
  | ok plain =>
    simp only [Except.bind]
    cases Settings.decode plain with
    | error e => rfl
    | ok request =>
      simp only [Handler.decoded, pure, EStateM.pure]
      cases request.audioPort <;> rfl

theorem requestIn_of_payload {key : Block} {packet plain : List UInt8} {request : Settings}
    {port : UInt16} (opens : Framer.payload key packet = .ok plain)
    (decoded : Settings.decode plain = .ok request) (asked : request.audioPort = .ok port) :
    requestIn key packet = .ok (request, port) := by
  simp only [requestIn, opens, bind, Except.bind, decoded, asked]
  rfl

theorem requestIn_sealed (key iv : Block) {request : Settings} {port : UInt16}
    (asked : request.audioPort = .ok port) :
    requestIn key (Framer.sealed key iv request.encode) = .ok (request, port) :=
  requestIn_of_payload (Framer.payload_sealed key iv request.encode) request.decode_encode asked

theorem payload_of_requestIn {key : Block} {packet : List UInt8} {request : Settings}
    {port : UInt16} (asks : requestIn key packet = .ok (request, port)) :
    ∃ plain, Framer.payload key packet = .ok plain ∧ Settings.decode plain = .ok request ∧
      request.audioPort = .ok port := by
  unfold requestIn at asks
  cases opens : Framer.payload key packet with
  | error e =>
    rw [opens] at asks
    cases asks
  | ok plain =>
    cases decoded : Settings.decode plain with
    | error e =>
      simp only [opens, bind, Except.bind, decoded] at asks
      cases asks
    | ok found =>
      cases asked : found.audioPort with
      | error e =>
        simp only [opens, bind, Except.bind, decoded, asked] at asks
        cases asks
      | ok value =>
        simp only [opens, bind, Except.bind, decoded, asked] at asks
        cases asks
        exact ⟨plain, rfl, decoded, asked⟩

theorem audioPort_of_requestIn {key : Block} {packet : List UInt8} {request : Settings}
    {port : UInt16} (asks : requestIn key packet = .ok (request, port)) :
    request.audioPort = .ok port := by
  obtain ⟨plain, -, -, asked⟩ := payload_of_requestIn asks
  exact asked

theorem respond_refused {backend : Device σ} {c : Circumstances} {request : Settings}
    {sender : SocketAddress} {s : Server σ} {e : CaptureError}
    (refused : answer request (backend.advertised s.pairing.device) s.commandPort = .error e) :
    respond backend c request sender s = .error (.failed (.device e)) s := by
  unfold respond
  rw [Handler.bind_ok (Handler.get_eq s)]
  simp only [refused]
  rfl

theorem respond_lost {backend : Device σ} {c : Circumstances} {request settings : Settings}
    {sender : SocketAddress} {s : Server σ} {e : OsError}
    (answers : answer request (backend.advertised s.pairing.device) s.commandPort = .ok settings)
    (lost : c.reply = some e) :
    respond backend c request sender s = .error (.failed (.send e)) (s.sealing .control) := by
  unfold respond
  rw [Handler.bind_ok (Handler.get_eq s)]
  simp only [answers]
  rw [Handler.bind_ok (Handler.sealPacket_eq _ _ _)]
  simp only [reply, lost]

theorem respond_ok {backend : Device σ} {c : Circumstances} {request settings : Settings}
    {sender : SocketAddress} {s : Server σ}
    (answers : answer request (backend.advertised s.pairing.device) s.commandPort = .ok settings)
    (sent : c.reply = none) :
    respond backend c request sender s = .ok () (s.answered .control sender settings.encode) := by
  unfold respond
  rw [Handler.bind_ok (Handler.get_eq s)]
  simp only [answers]
  rw [Handler.bind_ok (Handler.sealPacket_eq _ _ _)]
  simp only [reply, sent, Server.answered]

theorem connect_ok {c : Circumstances} (connected : c.connect = none) (client : SocketAddress)
    (s : Server σ) :
    connect c client s = .ok () (s.aimed client) := by
  simp only [connect, connected, Server.aimed]

theorem connect_error {c : Circumstances} {e : OsError} (refused : c.connect = some e)
    (client : SocketAddress) (s : Server σ) :
    connect c client s = .error (.failed (.transport "connect audio socket" e)) s := by
  simp only [connect, refused]

/-- The ways in which the handling of a request ends, with all that it has done by then. -/
inductive Ends (backend : Device σ) (c : Circumstances) (request : Settings) (port : UInt16)
    (sender : SocketAddress) (s : Server σ) : EStateM.Result HandlerFault (Server σ) Unit → Prop where
  | unprepared {fault : Fault} {device : σ}
      (prepared : backend.prepare s.format (backend.stop s.pairing.device) = .error fault device) :
      Ends backend c request port sender s (.error (.ofFault fault) (s.unpaired device))
  | unanswerable {device : σ} {e : CaptureError}
      (prepared : backend.prepare s.format (backend.stop s.pairing.device) = .ok () device)
      (refused : answer request (backend.advertised device) s.commandPort = .error e) :
      Ends backend c request port sender s (.error (.failed (.device e)) (s.unpaired device))
  | unsent {device : σ} {settings : Settings} {e : OsError}
      (prepared : backend.prepare s.format (backend.stop s.pairing.device) = .ok () device)
      (answers : answer request (backend.advertised device) s.commandPort = .ok settings)
      (lost : c.reply = some e) :
      Ends backend c request port sender s
        (.error (.failed (.send e)) ((s.unpaired device).sealing .control))
  | unconnected {device : σ} {settings : Settings} {e : OsError}
      (prepared : backend.prepare s.format (backend.stop s.pairing.device) = .ok () device)
      (answers : answer request (backend.advertised device) s.commandPort = .ok settings)
      (sent : c.reply = none) (refused : c.connect = some e) :
      Ends backend c request port sender s
        (.error (.failed (.transport "connect audio socket" e))
          ((s.unpaired device).answered .control sender settings.encode))
  | unstarted {device device' : σ} {settings : Settings} {fault : Fault}
      (prepared : backend.prepare s.format (backend.stop s.pairing.device) = .ok () device)
      (answers : answer request (backend.advertised device) s.commandPort = .ok settings)
      (sent : c.reply = none) (connected : c.connect = none)
      (started : backend.start device = .error fault device') :
      Ends backend c request port sender s
        (.error (.ofFault fault) (.withDevice device' (.aimed ⟨sender.ip, port⟩
          ((s.unpaired device).answered .control sender settings.encode))))
  | paired {device device' : σ} {settings : Settings}
      (prepared : backend.prepare s.format (backend.stop s.pairing.device) = .ok () device)
      (answers : answer request (backend.advertised device) s.commandPort = .ok settings)
      (sent : c.reply = none) (connected : c.connect = none)
      (started : backend.start device = .ok () device') :
      Ends backend c request port sender s
        (.ok () (begin c ⟨sender.ip, port⟩ (.withDevice device' (.aimed ⟨sender.ip, port⟩
          ((s.unpaired device).answered .control sender settings.encode)))))

theorem pair_ends (backend : Device σ) (c : Circumstances) (request : Settings) (port : UInt16)
    (sender : SocketAddress) (s : Server σ) :
    Ends backend c request port sender s (pair backend c request port sender s) := by
  -- The cases follow the handler from one operation that can fail to the next.
  have cleared (device : σ) : (clear backend s).withDevice device = s.unpaired device := rfl
  unfold pair
  rw [Handler.bind_ok (Handler.modify_eq _ _), Handler.bind_ok (Handler.get_eq _)]
  cases prepared : backend.prepare s.format (backend.stop s.pairing.device) with
  | error fault device =>
    rw [Handler.bind_error (Handler.onDevice_error prepared), cleared]
    exact .unprepared prepared
  | ok done device =>
    rw [Handler.bind_ok (Handler.onDevice_ok prepared), cleared]
    cases answers : answer request (backend.advertised device) s.commandPort with
    | error e =>
      rw [Handler.bind_error (respond_refused answers)]
      exact .unanswerable prepared answers
    | ok settings =>
      cases sent : c.reply with
      | some e =>
        rw [Handler.bind_error (respond_lost answers sent)]
        exact .unsent prepared answers sent
      | none =>
        rw [Handler.bind_ok (respond_ok answers sent)]
        cases connected : c.connect with
        | some e =>
          rw [Handler.bind_error (connect_error connected ⟨sender.ip, port⟩ _)]
          exact .unconnected prepared answers sent connected
        | none =>
          rw [Handler.bind_ok (connect_ok connected ⟨sender.ip, port⟩ _)]
          cases started : backend.start device with
          | error fault device' =>
            rw [Handler.bind_error (Handler.onDevice_error started)]
            exact .unstarted prepared answers sent connected started
          | ok done device' =>
            rw [Handler.bind_ok (Handler.onDevice_ok started), Handler.modify_eq]
            exact .paired prepared answers sent connected started

theorem frame_of_ends {backend : Device σ} {c : Circumstances} {request : Settings} {port : UInt16}
    {sender : SocketAddress} {s : Server σ} {r : EStateM.Result HandlerFault (Server σ) Unit}
    (ends : Ends backend c request port sender s r) : Server.Frame s (Handler.after r) := by
  cases ends with
  | unprepared | unanswerable => exact .unpaired ..
  | @unsent device =>
    rw [Handler.after]
    exact (Server.Frame.unpaired s device).trans (.sealing ..)
  | @unconnected device settings =>
    rw [Handler.after]
    exact (Server.Frame.unpaired s device).trans (.answered ..)
  | @unstarted device device' settings =>
    rw [Handler.after]
    have replied := (Server.Frame.unpaired s device).trans (.answered _ .control settings.encode sender)
    exact (replied.trans (.aimed _ ⟨sender.ip, port⟩)).trans (.withDevice ..)
  | @paired device device' settings =>
    rw [Handler.after]
    have replied := (Server.Frame.unpaired s device).trans (.answered _ .control settings.encode sender)
    have started := (replied.trans (.aimed _ ⟨sender.ip, port⟩)).trans (.withDevice _ device')
    exact started.trans (.begun ..)

/-- There is no other way: what an exit needs is enough to take it. -/
theorem pair_of_ends {backend : Device σ} {c : Circumstances} {request : Settings} {port : UInt16}
    {sender : SocketAddress} {s : Server σ} {r : EStateM.Result HandlerFault (Server σ) Unit}
    (ends : Ends backend c request port sender s r) : pair backend c request port sender s = r := by
  have cleared (device : σ) : (clear backend s).withDevice device = s.unpaired device := rfl
  unfold pair
  rw [Handler.bind_ok (Handler.modify_eq _ _), Handler.bind_ok (Handler.get_eq _)]
  cases ends with
  | unprepared prepared => rw [Handler.bind_error (Handler.onDevice_error prepared), cleared]
  | unanswerable prepared refused =>
    rw [Handler.bind_ok (Handler.onDevice_ok prepared), cleared,
      Handler.bind_error (respond_refused refused)]
  | unsent prepared answers lost =>
    rw [Handler.bind_ok (Handler.onDevice_ok prepared), cleared,
      Handler.bind_error (respond_lost answers lost)]
  | unconnected prepared answers sent refused =>
    rw [Handler.bind_ok (Handler.onDevice_ok prepared), cleared,
      Handler.bind_ok (respond_ok answers sent), Handler.bind_error (connect_error refused _ _)]
  | unstarted prepared answers sent connected failed =>
    rw [Handler.bind_ok (Handler.onDevice_ok prepared), cleared,
      Handler.bind_ok (respond_ok answers sent), Handler.bind_ok (connect_ok connected _ _),
      Handler.bind_error (Handler.onDevice_error failed)]
  | paired prepared answers sent connected started =>
    rw [Handler.bind_ok (Handler.onDevice_ok prepared), cleared,
      Handler.bind_ok (respond_ok answers sent), Handler.bind_ok (connect_ok connected _ _),
      Handler.bind_ok (Handler.onDevice_ok started), Handler.modify_eq]

theorem handle_unread {backend : Device σ} {c : Circumstances} {packet : List UInt8}
    {sender : SocketAddress} {s : Server σ} {e : CodecError}
    (unread : requestIn s.control.framer.codec.key packet = .error e) :
    handle backend c packet sender s = .error (.failed (.decode e)) (s.opened .control packet) := by
  have reading : read packet s = .error (.failed (.decode e)) (s.opened .control packet) := by
    rw [read_eq, unread]
  unfold handle
  rw [Handler.bind_error reading]

theorem handle_read {backend : Device σ} {c : Circumstances} {packet : List UInt8}
    {sender : SocketAddress} {s : Server σ} {request : Settings} {port : UInt16}
    (asked : requestIn s.control.framer.codec.key packet = .ok (request, port)) :
    handle backend c packet sender s =
      pair backend c request port sender (s.opened .control packet) := by
  have reading : read packet s = .ok (request, port) (s.opened .control packet) := by
    rw [read_eq, asked]
  unfold handle
  rw [Handler.bind_ok reading]

end Handshake

namespace Control

def commandIn (key : Block) (packet : List UInt8) : Except CodecError Command := do
  let plain ← Framer.payload key packet
  Command.decode plain

theorem commandIn_of_payload {key : Block} {packet plain : List UInt8}
    (opens : Framer.payload key packet = .ok plain) : commandIn key packet = Command.decode plain := by
  simp only [commandIn, opens]
  rfl

theorem commandIn_sealed (key iv : Block) (command : Command) :
    commandIn key (Framer.sealed key iv command.encode) = .ok command := by
  rw [commandIn_of_payload (Framer.payload_sealed key iv command.encode), Command.decode_encode]

theorem read_eq (packet : List UInt8) (s : Server σ) :
    read packet s = match commandIn s.command.framer.codec.key packet with
      | .ok command => .ok command (s.opened .command packet)
      | .error e => .error (.failed (.decode e)) (s.opened .command packet) := by
  have opening := Handler.openPacket_eq .command packet s
  rw [show s.worker .command = s.command from rfl] at opening
  unfold read commandIn
  simp only [bind, EStateM.bind, opening]
  cases Framer.payload s.command.framer.codec.key packet with
  | error e => rfl
  | ok plain =>
    simp only [Except.bind, Handler.decoded]
    cases Command.decode plain <;> rfl

def switch : Bool → Command
  | true => .play
  | false => .pause

def switched : Bool → SessionState
  | true => .streaming
  | false => .paused

inductive Carried (backend : Device σ) (s : Server σ) :
    Command → EStateM.Result HandlerFault (Server σ) Unit → Prop where
  | pinged : Carried backend s .ping (.ok () s)
  | switched {playing : Bool} {device : σ}
      (set : backend.setPlaying playing s.pairing.device = .ok () device) :
      Carried backend s (switch playing) (.ok () (moveSession (switched playing) (s.withDevice device)))
  | unswitched {playing : Bool} {fault : Fault} {device : σ}
      (failed : backend.setPlaying playing s.pairing.device = .error fault device) :
      Carried backend s (switch playing) (.error (.ofFault fault) (s.withDevice device))
  | stopped : Carried backend s .stop (.ok () (moveSession .stopped (requestStop backend s)))

/-- The two commands are one program; only the flag and the state differ. -/
theorem carryOut_switch_eq (backend : Device σ) (playing : Bool) :
    carryOut backend (switch playing) = (do
      Handler.onDevice (backend.setPlaying playing)
      modify (moveSession (switched playing)) : Handler σ Unit) := by
  cases playing <;> rfl

theorem carryOut_switch (backend : Device σ) (playing : Bool) (s : Server σ) :
    Carried backend s (switch playing) (carryOut backend (switch playing) s) := by
  rw [carryOut_switch_eq]
  cases set : backend.setPlaying playing s.pairing.device with
  | ok done device =>
    rw [Handler.bind_ok (Handler.onDevice_ok set)]
    exact .switched set
  | error fault device =>
    rw [Handler.bind_error (Handler.onDevice_error set)]
    exact .unswitched set

theorem carryOut_carried (backend : Device σ) (command : Command) (s : Server σ) :
    Carried backend s command (carryOut backend command s) := by
  cases command with
  | ping => exact .pinged
  | play => exact carryOut_switch backend true s
  | pause => exact carryOut_switch backend false s
  | stop => exact .stopped

inductive Ends (backend : Device σ) (c : Circumstances) (command : Command) (sender : SocketAddress)
    (s : Server σ) : EStateM.Result HandlerFault (Server σ) (Option OsError) → Prop where
  | failed {fault : HandlerFault} {s' : Server σ} (carried : Carried backend s command (.error fault s')) :
      Ends backend c command sender s (.error fault s')
  | acknowledged {s' : Server σ} (carried : Carried backend s command (.ok () s'))
      (sent : c.ack = none) :
      Ends backend c command sender s (.ok none (s'.answered .command sender command.encode))
  | silenced {s' : Server σ} {e : OsError} (carried : Carried backend s command (.ok () s'))
      (lost : c.ack = some e) :
      Ends backend c command sender s (.ok (some e) (silence backend (s'.sealing .command)))

theorem handle_unread {backend : Device σ} {c : Circumstances} {packet : List UInt8}
    {sender : SocketAddress} {s : Server σ} {e : CodecError}
    (unread : commandIn s.command.framer.codec.key packet = .error e) :
    handle backend c packet sender s = .error (.failed (.decode e)) (s.opened .command packet) := by
  have reading : read packet s = .error (.failed (.decode e)) (s.opened .command packet) := by
    rw [read_eq, unread]
  unfold handle
  rw [Handler.bind_error reading]

section Asked

variable {backend : Device σ} {c : Circumstances} {packet : List UInt8} {sender : SocketAddress}
  {s s' : Server σ} {command : Command}

theorem read_of_commandIn (asked : commandIn s.command.framer.codec.key packet = .ok command) :
    read packet s = .ok command (s.opened .command packet) := by
  rw [read_eq, asked]

theorem handle_uncarried {fault : HandlerFault}
    (asked : commandIn s.command.framer.codec.key packet = .ok command)
    (failed : carryOut backend command (s.opened .command packet) = .error fault s') :
    handle backend c packet sender s = .error fault s' := by
  unfold handle
  rw [Handler.bind_ok (read_of_commandIn asked), Handler.bind_error failed]

theorem handle_carried (asked : commandIn s.command.framer.codec.key packet = .ok command)
    (carried : carryOut backend command (s.opened .command packet) = .ok () s') :
    handle backend c packet sender s = match c.ack with
      | none => .ok none (s'.answered .command sender command.encode)
      | some e => .ok (some e) (silence backend (s'.sealing .command)) := by
  have sealing := Handler.sealPacket_eq .command command.encode s'
  unfold handle
  rw [Handler.bind_ok (read_of_commandIn asked), Handler.bind_ok carried, Handler.bind_ok sealing]
  cases c.ack <;> rfl

theorem handle_ends (asked : commandIn s.command.framer.codec.key packet = .ok command) :
    Ends backend c command sender (s.opened .command packet) (handle backend c packet sender s) := by
  have carrying := carryOut_carried backend command (s.opened .command packet)
  cases carried : carryOut backend command (s.opened .command packet) with
  | error fault s' =>
    rw [carried] at carrying
    rw [handle_uncarried asked carried]
    exact .failed carrying
  | ok done s' =>
    rw [carried] at carrying
    rw [handle_carried asked carried]
    cases sent : c.ack with
    | none => exact .acknowledged carrying sent
    | some e => exact .silenced carrying sent

end Asked

end Control

end PairedAudio
