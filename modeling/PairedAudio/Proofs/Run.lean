import PairedAudio.Proofs.Handlers
import PairedAudio.Server.Stream

/-! Runs of a server: arrivals at its two workers, chunks of its capture and shutdowns, in any order.

A property that every step of the handlers keeps is kept by whole runs; this is said once, in
`Kept`. The first such property is that a server is sound: every framer holds the server's key, and
the sessions to come have other numbers than the one there is.
-/

set_option autoImplicit false

namespace PairedAudio

open Capture (Device)
open Cipher (IvSource Key)
open Wire (Command Settings)

variable {σ : Type}

theorem Framer.take_sealed (key iv : Cipher.Block) {plain : List UInt8} (short : plain.length < 8160) :
    (sealed key iv plain).take receiveLength = sealed key iv plain := by
  refine List.take_of_length_le ?_
  rw [length_sealed, sealedLength, Cipher.Padding.paddedLength, receiveLength]
  omega

theorem Handshake.requestIn_received (key iv : Cipher.Block) {request : Settings} {port : UInt16}
    (asked : request.audioPort = .ok port) :
    requestIn key ((Framer.sealed key iv request.encode).take receiveLength) = .ok (request, port) := by
  rw [Framer.take_sealed key iv (by rw [Settings.length_encode]; decide)]
  exact requestIn_sealed key iv asked

def Report.ofResult : EStateM.Result HandlerFault (Server σ) (Option OsError) → Report
  | .ok lost _ => .handled lost
  | .error (.failed (.decode e)) _ => .discarded e
  | .error (.failed e) _ => .failed e
  | .error .crashed _ => .crashed

inductive Event
  | arrival (w : Worker) (c : Circumstances) (arrival : Arrival)
  /-- The capture delivers a chunk; the error is that of sending it. -/
  | chunk (send : Option OsError) (bytes : List UInt8)
  | shutdown

theorem Session.command_id (state : SessionState) (session : Session) :
    (session.command state).id = session.id := by
  unfold Session.command
  split <;> rfl

/-- What a command does to a session does not show any more once the session is stopped. -/
theorem Session.halt_comp_command (state : SessionState) :
    Session.halt ∘ Session.command state = Session.halt := by
  funext session
  simp only [Function.comp, Session.command, Session.halt]
  split <;> rfl

namespace Server

def step (backend : Device σ) (s : Server σ) : Event → Server σ
  | .arrival w c arrival => (s.receive backend w c arrival).2
  | .chunk send bytes => (s.emit send bytes).2
  | .shutdown => s.shutdown backend

def run (backend : Device σ) (s : Server σ) : List Event → Server σ
  | [] => s
  | event :: rest => (s.step backend event).run backend rest

/-- The server after a worker has handled a datagram; only a crash ends the worker. -/
def settle (w : Worker) {α : Type} : EStateM.Result HandlerFault (Server σ) α → Server σ
  | .error .crashed s => s.endWorker w
  | .error (.failed _) s | .ok _ s => s

theorem settle_sent (w : Worker) {α : Type} (r : EStateM.Result HandlerFault (Server σ) α) :
    (settle w r).sent = (Handler.after r).sent := by
  cases r with
  | ok value s => rfl
  | error fault s =>
    cases fault with
    | failed e => rfl
    | crashed => exact setWorker_sent ..

theorem settle_pairing (w : Worker) {α : Type} (r : EStateM.Result HandlerFault (Server σ) α) :
    (settle w r).pairing = (Handler.after r).pairing := by
  cases r with
  | ok value s => rfl
  | error fault s =>
    cases fault with
    | failed e => rfl
    | crashed => exact setWorker_pairing ..

theorem settle_session (w : Worker) {α : Type} (r : EStateM.Result HandlerFault (Server σ) α) :
    (settle w r).session = (Handler.after r).session := congrArg Pairing.session (settle_pairing w r)

theorem take_store (s : Server σ) (w : Worker) (bytes : List UInt8) :
    ((s.store w bytes).worker w).buffer.take bytes.length = bytes := by
  rw [store, worker_setWorker]
  exact List.take_left' rfl

theorem receive_running (backend : Device σ) {w : Worker} {s : Server σ} (running : s.running = true)
    (awake : (s.worker w).ended = false) (c : Circumstances) (bytes : List UInt8)
    (sender : SocketAddress) :
    let handled := handle backend w c (bytes.take receiveLength) sender
      (s.store w (bytes.take receiveLength))
    s.receive backend w c (.datagram bytes sender) = (.ofResult handled, settle w handled) := by
  have still : (s.store w (bytes.take receiveLength)).running = true := by
    rw [store, setWorker_running, running]
  unfold receive
  simp only [awake, still, take_store, Bool.not_true, Bool.false_eq_true, if_false]
  cases handle backend w c (bytes.take receiveLength) sender (s.store w (bytes.take receiveLength)) with
  | ok lost s => rfl
  | error fault s =>
    cases fault with
    | crashed => rfl
    | failed e => cases e <;> rfl

theorem receive_datagram {backend : Device σ} {w : Worker} {s : Server σ} (running : s.running = true)
    (awake : (s.worker w).ended = false) (c : Circumstances) (bytes : List UInt8)
    (sender : SocketAddress) :
    (s.receive backend w c (.datagram bytes sender)).2 =
      settle w (handle backend w c (bytes.take receiveLength) sender
        (s.store w (bytes.take receiveLength))) := by
  rw [receive_running backend running awake]

theorem receive_datagram_exiting {backend : Device σ} {w : Worker} {s : Server σ}
    (stopped : s.running = false) (awake : (s.worker w).ended = false) (c : Circumstances)
    (bytes : List UInt8) (sender : SocketAddress) :
    (s.receive backend w c (.datagram bytes sender)).2 =
      (s.store w (bytes.take receiveLength)).endWorker w := by
  have still : (s.store w (bytes.take receiveLength)).running = false := by
    rw [store, setWorker_running, stopped]
  unfold receive
  simp only [awake, still, Bool.false_eq_true, if_false, Bool.not_false, if_true]

theorem receive_failure {backend : Device σ} {w : Worker} {s : Server σ}
    (awake : (s.worker w).ended = false) (c : Circumstances) (e : OsError) :
    (s.receive backend w c (.failure e)).2 = if e = .connectionReset then s else s.endWorker w := by
  unfold receive
  simp only [awake, Bool.false_eq_true, if_false]
  split <;> rfl

theorem receive_ended {backend : Device σ} {w : Worker} {s : Server σ}
    (ended : (s.worker w).ended = true) (c : Circumstances) (arrival : Arrival) :
    (s.receive backend w c arrival).2 = s := by
  unfold receive
  rw [if_pos ended]

/-- The control worker reports no lost reply, so the two results differ in their value alone. -/
theorem after_handle_control (backend : Device σ) (c : Circumstances) (packet : List UInt8)
    (sender : SocketAddress) (s : Server σ) :
    Handler.after (handle backend .control c packet sender s) =
      Handler.after (Handshake.handle backend c packet sender s) := by
  simp only [handle, bind, EStateM.bind, pure, EStateM.pure]
  cases Handshake.handle backend c packet sender s <;> rfl

/-- A property that nothing which a server does can end. -/
structure Kept (backend : Device σ) (holds : Server σ → Prop) : Prop where
  store (w : Worker) (bytes : List UInt8) {s : Server σ} : holds s → holds (s.store w bytes)
  opened (w : Worker) (packet : List UInt8) {s : Server σ} : holds s → holds (s.opened w packet)
  ended (w : Worker) {s : Server σ} : holds s → holds (s.endWorker w)
  handshake {c : Circumstances} {request : Settings} {port : UInt16} {sender : SocketAddress}
    {s : Server σ} {r : EStateM.Result HandlerFault (Server σ) Unit} :
    Handshake.Ends backend c request port sender s r → holds s → holds (Handler.after r)
  command {c : Circumstances} {command : Command} {sender : SocketAddress} {s : Server σ}
    {r : EStateM.Result HandlerFault (Server σ) (Option OsError)} :
    Control.Ends backend c command sender s r → holds s → holds (Handler.after r)
  chunk (send : Option OsError) (bytes : List UInt8) {s : Server σ} :
    holds s → holds (s.emit send bytes).2
  halt {s : Server σ} : holds s → holds (s.halt backend)
  closed {s : Server σ} : holds s → holds { s with closed := true }

namespace Kept

variable {backend : Device σ} {holds : Server σ → Prop}

theorem handle (kept : Kept backend holds) (w : Worker) (c : Circumstances) (packet : List UInt8)
    (sender : SocketAddress) {s : Server σ} (start : holds s) :
    holds (Handler.after (Server.handle backend w c packet sender s)) := by
  cases w with
  | control =>
    rw [after_handle_control]
    cases asked : Handshake.requestIn s.control.framer.codec.key packet with
    | error e =>
      rw [Handshake.handle_unread asked]
      exact kept.opened .control packet start
    | ok found =>
      rw [Handshake.handle_read asked]
      exact kept.handshake (Handshake.pair_ends ..) (kept.opened .control packet start)
  | command =>
    change holds (Handler.after (Control.handle backend c packet sender s))
    cases asked : Control.commandIn s.command.framer.codec.key packet with
    | error e =>
      rw [Control.handle_unread asked]
      exact kept.opened .command packet start
    | ok command => exact kept.command (Control.handle_ends asked) (kept.opened .command packet start)

theorem settle (kept : Kept backend holds) (w : Worker) {α : Type}
    {r : EStateM.Result HandlerFault (Server σ) α} (handled : holds (Handler.after r)) :
    holds (Server.settle w r) := by
  cases r with
  | ok value s => exact handled
  | error fault s =>
    cases fault with
    | failed e => exact handled
    | crashed => exact kept.ended w handled

theorem receive (kept : Kept backend holds) (w : Worker) (c : Circumstances) (arrival : Arrival)
    {s : Server σ} (start : holds s) : holds (s.receive backend w c arrival).2 := by
  cases awake : (s.worker w).ended with
  | true =>
    rw [receive_ended awake]
    exact start
  | false =>
    cases arrival with
    | failure e =>
      rw [receive_failure awake]
      split
      · exact start
      · exact kept.ended w start
    | datagram bytes sender =>
      have stored := kept.store w (bytes.take receiveLength) start
      cases running : s.running with
      | true =>
        rw [receive_datagram running awake]
        exact kept.settle w (kept.handle w c (bytes.take receiveLength) sender stored)
      | false =>
        rw [receive_datagram_exiting running awake]
        exact kept.ended w stored

theorem shutdown (kept : Kept backend holds) {s : Server σ} (start : holds s) :
    holds (s.shutdown backend) := by
  unfold Server.shutdown
  split
  · exact start
  · exact kept.closed (kept.ended .command (kept.ended .control (kept.halt start)))

theorem step (kept : Kept backend holds) (event : Event) {s : Server σ} (start : holds s) :
    holds (s.step backend event) := by
  cases event with
  | arrival w c arrival => exact kept.receive w c arrival start
  | chunk send bytes => exact kept.chunk send bytes start
  | shutdown => exact kept.shutdown start

theorem run (kept : Kept backend holds) (events : List Event) {s : Server σ} (start : holds s) :
    holds (s.run backend events) := by
  induction events generalizing s with
  | nil => exact start
  | cons event rest ih => exact ih (kept.step event start)

end Kept

/-- A chunk reaches the audio path, the supply of vectors and the network, and nothing else. -/
theorem emit_frame (send : Option OsError) (bytes : List UInt8) (s : Server σ) :
    ∃ audio ivs datagrams, audio.framer.codec.key = s.audio.framer.codec.key ∧
      (s.emit send bytes).2 = { s with audio, ivs, sent := s.sent ++ datagrams } := by
  have key : (s.audio.framer.encodeInto bytes s.audio.scratch s.ivs).1.framer.codec.key =
      s.audio.framer.codec.key := by
    rw [Framer.encodeInto_eq]
    split <;> rfl
  obtain ⟨packet, audio, ivs, key, sealing⟩ : ∃ packet audio ivs,
      audio.framer.codec.key = s.audio.framer.codec.key ∧
        s.sealChunk bytes = (packet, { s with audio, ivs }) :=
    ⟨_, ⟨_, _⟩, _, key, rfl⟩
  unfold emit
  rw [sealing]
  cases packet with
  | error e => exact ⟨audio, ivs, [], key, by rw [List.append_nil]⟩
  | ok packet =>
    simp only [transmit]
    split
    · exact ⟨audio, ivs, [_], key, rfl⟩
    · exact ⟨audio, ivs, [], key, by rw [List.append_nil]⟩

theorem eq_initial_of_start {backend : Device σ} {config : Config} {device : σ}
    {commandPort : UInt16} {ivs : IvSource} {setup : Setup} {s : Server σ}
    (started : start backend config device commandPort ivs setup = .ok s) :
    ∃ key, Key.ofSecret config.pairCode = .ok key ∧
      s = initial backend key config.format commandPort device ivs := by
  unfold start at started
  cases valid : config.validate.mapError ConfigError.asStream with
  | error e => simp [valid, bind, Except.bind] at started
  | ok done =>
    cases derived : Key.ofSecret config.pairCode with
    | error e => simp [valid, derived, bind, Except.bind] at started
    | ok key =>
      cases prepared : setup.run with
      | error e => simp [valid, derived, prepared, bind, Except.bind] at started
      | ok done =>
        simp only [valid, derived, prepared, bind, Except.bind, pure, Except.pure,
          Except.ok.injEq] at started
        exact ⟨key, rfl, started.symm⟩

theorem valid_of_start {backend : Device σ} {config : Config} {device : σ} {commandPort : UInt16}
    {ivs : IvSource} {setup : Setup} {s : Server σ}
    (started : start backend config device commandPort ivs setup = .ok s) :
    config.validate = .ok () := by
  unfold start at started
  cases valid : config.validate with
  | ok done => rfl
  | error e =>
    have refused : config.validate.mapError ConfigError.asStream = .error e.asStream := by
      rw [valid]
      rfl
    simp [refused, bind, Except.bind] at started

theorem start_of_valid {backend : Device σ} {config : Config} {device : σ} {commandPort : UInt16}
    {ivs : IvSource} {setup : Setup} {key : Key} (valid : config.validate = .ok ())
    (derived : Key.ofSecret config.pairCode = .ok key) (prepared : setup.run = .ok ()) :
    start backend config device commandPort ivs setup =
      .ok (initial backend key config.format commandPort device ivs) := by
  unfold start
  rw [valid, derived, prepared]
  rfl

end Server

namespace Standard

/-- Streams the standard format to whoever knows a pairing code of six digits. -/
def config : Config := ⟨"771203", Config.defaultPort, .standard⟩

/-- The bytes of the digits, filled up with those of threes. -/
def key : Key := ⟨.tabulate fun i => [0x37, 0x37, 0x31, 0x32, 0x30, 0x33].getD i 0x33⟩

def server (backend : Device σ) (device : σ) : Server σ :=
  Server.initial backend key .standard 5541 device (.seeded default)

def client : SocketAddress := ⟨⟨10, 0, 0, 7⟩, 40000⟩

def request : List UInt8 := Framer.sealed key.block default (Settings.request 9000).encode

theorem start (backend : Device σ) (device : σ) :
    Server.start backend config device 5541 (.seeded default) {} = .ok (server backend device) := by
  have bytes : "771203".toUTF8.toList = [0x37, 0x37, 0x31, 0x32, 0x30, 0x33] := by decide +kernel
  exact Server.start_of_valid rfl (congrArg Key.ofBytes bytes) rfl

theorem requestIn_request : Handshake.requestIn key.block request = .ok (.request 9000, 9000) :=
  Handshake.requestIn_sealed key.block default rfl

theorem requestIn_received :
    Handshake.requestIn key.block (request.take receiveLength) = .ok (.request 9000, 9000) :=
  Handshake.requestIn_received key.block default rfl

end Standard

namespace Server

/-- The server and all its framers hold the key, and no session to come has the number of the
present one. -/
structure Sound (key : Key) (s : Server σ) : Prop where
  held : s.key = key
  control : s.control.framer.codec.key = key.block
  command : s.command.framer.codec.key = key.block
  audio : s.audio.framer.codec.key = key.block
  fresh (session : Session) (present : s.pairing.session = some session) : session.id < s.sessions

namespace Sound

variable {key : Key} {s s' : Server σ}

theorem of_same (sound : s.Sound key) (same : s'.key = s.key)
    (control : s'.control.framer.codec.key = s.control.framer.codec.key)
    (command : s'.command.framer.codec.key = s.command.framer.codec.key)
    (audio : s'.audio.framer.codec.key = s.audio.framer.codec.key)
    (fresh : ∀ session, s'.pairing.session = some session → session.id < s'.sessions) :
    s'.Sound key where
  held := same.trans sound.held
  control := control.trans sound.control
  command := command.trans sound.command
  audio := audio.trans sound.audio
  fresh := fresh

theorem worker (sound : s.Sound key) (w : Worker) :
    (s.worker w).framer.codec.key = key.block := by
  cases w with
  | control => exact sound.control
  | command => exact sound.command

theorem setWorker (sound : s.Sound key) (w : Worker) (state : WorkerState)
    (same : state.framer.codec.key = (s.worker w).framer.codec.key) :
    (s.setWorker w state).Sound key := by
  cases w with
  | control => exact sound.of_same rfl same rfl rfl sound.fresh
  | command => exact sound.of_same rfl rfl same rfl sound.fresh

theorem initial (backend : Device σ) (key : Key) (format : Audio.Format) (commandPort : UInt16)
    (device : σ) (ivs : IvSource) :
    (Server.initial backend key format commandPort device ivs).Sound key where
  held := rfl
  control := rfl
  command := rfl
  audio := rfl
  fresh _ present := by cases present

theorem sealing (sound : s.Sound key) (w : Worker) : (s.sealing w).Sound key :=
  let disarmed := sound.setWorker w { s.worker w with framer := (s.worker w).framer.disarmed } rfl
  disarmed.of_same rfl rfl rfl rfl disarmed.fresh

theorem answered (sound : s.Sound key) (w : Worker) (recipient : SocketAddress) (plain : List UInt8) :
    (s.answered w recipient plain).Sound key :=
  (sound.sealing w).of_same rfl rfl rfl rfl (sound.sealing w).fresh

theorem withDevice (sound : s.Sound key) (device : σ) : (s.withDevice device).Sound key :=
  sound.of_same rfl rfl rfl rfl sound.fresh

theorem aimed (sound : s.Sound key) (client : SocketAddress) : (s.aimed client).Sound key :=
  sound.of_same rfl rfl rfl rfl sound.fresh

theorem unpaired (sound : s.Sound key) (device : σ) : (s.unpaired device).Sound key :=
  sound.of_same rfl rfl rfl rfl fun _ present => by cases present

theorem begin (sound : s.Sound key) (c : Circumstances) (client : SocketAddress) :
    (Handshake.begin c client s).Sound key :=
  sound.of_same rfl rfl rfl rfl fun _ present => by
    cases present
    exact Nat.lt_succ_self s.sessions

theorem of_map {change : Session → Session} (sound : s.Sound key) (same : s'.key = s.key)
    (control : s'.control.framer.codec.key = s.control.framer.codec.key)
    (command : s'.command.framer.codec.key = s.command.framer.codec.key)
    (audio : s'.audio.framer.codec.key = s.audio.framer.codec.key)
    (sessions : s'.sessions = s.sessions)
    (session : s'.pairing.session = s.pairing.session.map change)
    (numbered : ∀ session, (change session).id = session.id) : s'.Sound key := by
  refine sound.of_same same control command audio ?_
  -- Commands move a session and end it, but never give it another number.
  intro after present
  rw [session] at present
  obtain ⟨before, found, rfl⟩ := Option.map_eq_some_iff.mp present
  rw [numbered, sessions]
  exact sound.fresh before found

theorem carried {backend : Device σ} {command : Command} (sound : s.Sound key)
    (carried : Control.Carried backend s command (.ok () s')) : s'.Sound key := by
  cases carried with
  | pinged => exact sound
  | switched set => exact sound.of_map rfl rfl rfl rfl rfl rfl (Session.command_id _)
  | stopped => exact sound.of_map rfl rfl rfl rfl rfl rfl (Session.command_id _)

end Sound

theorem sound_kept (backend : Device σ) (key : Key) : Kept backend (Sound key) where
  store w bytes s sound := sound.setWorker w _ rfl
  opened w packet s sound := sound.setWorker w _ (Framer.afterOpening_key _ _)
  ended w s sound :=
    let marked := sound.setWorker w { s.worker w with ended := true } rfl
    marked.of_same rfl rfl rfl rfl marked.fresh
  handshake := by
    intro c request port sender s r ends sound
    cases ends with
    | unprepared | unanswerable => exact sound.unpaired _
    | unsent => exact (sound.unpaired _).sealing .control
    | unconnected => exact (sound.unpaired _).answered .control sender _
    | unstarted => exact (((sound.unpaired _).answered .control sender _).aimed _).withDevice _
    | paired => exact ((((sound.unpaired _).answered .control sender _).aimed _).withDevice _).begin c _
  command := by
    intro c command sender s r ends sound
    cases ends with
    | failed carried =>
      cases carried
      exact sound.withDevice _
    | acknowledged carried => exact (sound.carried carried).answered .command sender _
    | silenced carried =>
      exact ((sound.carried carried).sealing .command).of_map rfl rfl rfl rfl rfl rfl fun _ => rfl
  chunk send bytes s sound := by
    obtain ⟨audio, ivs, datagrams, key, frame⟩ := emit_frame send bytes s
    rw [frame]
    exact sound.of_same rfl rfl rfl key sound.fresh
  halt sound := sound.of_map rfl rfl rfl rfl rfl rfl fun _ => rfl
  closed sound := sound.of_same rfl rfl rfl rfl sound.fresh

theorem sound_of_start {backend : Device σ} {config : Config} {device : σ} {commandPort : UInt16}
    {ivs : IvSource} {setup : Setup} {s : Server σ}
    (started : start backend config device commandPort ivs setup = .ok s) : s.Sound s.key := by
  obtain ⟨key, -, rfl⟩ := eq_initial_of_start started
  exact .initial backend key _ commandPort device ivs

/-- A handshake in which nothing fails is handled to its end, and then the audio goes to the client. -/
theorem receive_of_started {backend : Device σ} {key : Key} {s : Server σ} (sound : s.Sound key)
    (running : s.running = true) (awake : (s.worker .control).ended = false) {c : Circumstances}
    {bytes : List UInt8} (sender : SocketAddress) {request settings : Settings} {port : UInt16}
    {device device' : σ}
    (asks : Handshake.requestIn key.block (bytes.take receiveLength) = .ok (request, port))
    (prepared : backend.prepare s.format (backend.stop s.pairing.device) = .ok () device)
    (answers : Handshake.answer request (backend.advertised device) s.commandPort = .ok settings)
    (sent : c.reply = none) (connected : c.connect = none)
    (started : backend.start device = .ok () device') :
    (s.receive backend .control c (.datagram bytes sender)).1 = .handled none ∧
      (s.receive backend .control c (.datagram bytes sender)).2.pairing.destination =
        some ⟨sender.ip, port⟩ := by
  have stored := (sound_kept backend key).store .control (bytes.take receiveLength) sound
  obtain ⟨after, done, aimed⟩ : ∃ after, Handshake.pair backend c request port sender
      ((s.store .control (bytes.take receiveLength)).opened .control (bytes.take receiveLength)) =
        .ok () after ∧ after.pairing.destination = some ⟨sender.ip, port⟩ :=
    ⟨_, Handshake.pair_of_ends (.paired prepared answers sent connected started), rfl⟩
  have handled : Handshake.handle backend c (bytes.take receiveLength) sender
      (s.store .control (bytes.take receiveLength)) = .ok () after :=
    (Handshake.handle_read (stored.control ▸ asks)).trans done
  rw [receive_running backend running awake]
  simp only [handle]
  rw [Handler.bind_ok handled]
  exact ⟨rfl, aimed⟩

end Server

end PairedAudio
