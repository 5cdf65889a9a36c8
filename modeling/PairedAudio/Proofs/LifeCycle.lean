import PairedAudio.Proofs.Backend
import PairedAudio.Proofs.Run

/-! The life of a server: it runs until the first event that is fatal, and is closed by a shutdown.

Two loops share the running flag, and each of them clears it when it ends. No handler touches it, so
between two fatal events a loop only hands on what it receives; afterwards it hands on nothing.
-/

set_option autoImplicit false

namespace PairedAudio

open Capture (Calls Device Scripted Watched)
open Cipher (IvSource Key)
open Wire (Command Settings)

variable {σ : Type}

namespace Server

/-- What brings a server down that runs: a receive that fails for good, a crash of a handler, or a
shutdown. -/
def Fatal (backend : Device σ) (s : Server σ) : Event → Prop
  | .arrival _ _ (.failure e) => e ≠ .connectionReset
  | .arrival w c (.datagram bytes sender) =>
    let received := bytes.take receiveLength
    ∃ left, handle backend w c received sender (s.store w received) = .error .crashed left
  | .chunk _ _ => False
  | .shutdown => True

def Calm (backend : Device σ) (s : Server σ) : List Event → Prop
  | [] => True
  | event :: rest => ¬ Fatal backend s event ∧ (s.step backend event).Calm backend rest

/-- What an event does as long as none was fatal: a datagram is handled, whatever comes of it. -/
def serve (backend : Device σ) (s : Server σ) : Event → Server σ
  | .arrival w c (.datagram bytes sender) =>
    let received := bytes.take receiveLength
    Handler.after (handle backend w c received sender (s.store w received))
  | .arrival _ _ (.failure _) => s
  | .chunk send bytes => (s.emit send bytes).2
  | .shutdown => s

theorem fatal_of_prepare {backend : Device σ} {s : Server σ} {c : Circumstances} {bytes : List UInt8}
    {sender : SocketAddress} {request : Settings} {port : UInt16} {device : σ}
    (asked : Handshake.requestIn s.control.framer.codec.key (bytes.take receiveLength) =
      .ok (request, port))
    (crash : backend.prepare s.format (backend.stop s.pairing.device) = .error .crashed device) :
    Fatal backend s (.arrival .control c (.datagram bytes sender)) := by
  let received := bytes.take receiveLength
  let stored := s.store .control received
  let read := stored.opened .control received
  have asked : Handshake.requestIn stored.control.framer.codec.key received = .ok (request, port) :=
    asked
  have prepared : backend.prepare read.format (backend.stop read.pairing.device) =
      .error .crashed device := crash
  have crashes : Handshake.pair backend c request port sender read =
      .error .crashed (read.unpaired device) := Handshake.pair_of_ends (.unprepared prepared)
  exact ⟨_, Handler.bind_error ((Handshake.handle_read asked).trans crashes)⟩

structure Flags where
  running : Bool
  closed : Bool
  controlEnded : Bool
  commandEnded : Bool

def flags (s : Server σ) : Flags := ⟨s.running, s.closed, s.control.ended, s.command.ended⟩

section Flags

variable {backend : Device σ} {s t : Server σ}

theorem ended_of_flags (same : t.flags = s.flags) (w : Worker) :
    (t.worker w).ended = (s.worker w).ended := by
  cases w with
  | control => exact congrArg Flags.controlEnded same
  | command => exact congrArg Flags.commandEnded same

theorem flags_store (w : Worker) (bytes : List UInt8) : (s.store w bytes).flags = s.flags := by
  cases w <;> rfl

theorem flags_opened (w : Worker) (packet : List UInt8) : (s.opened w packet).flags = s.flags := by
  cases w <;> rfl

theorem flags_sealing (w : Worker) : (s.sealing w).flags = s.flags := by
  cases w <;> rfl

theorem flags_answered (w : Worker) (recipient : SocketAddress) (plain : List UInt8) :
    (s.answered w recipient plain).flags = s.flags := by
  cases w <;> rfl

theorem flags_of_carried {command : Command} {r : EStateM.Result HandlerFault (Server σ) Unit}
    (carried : Control.Carried backend s command r) : (Handler.after r).flags = s.flags := by
  cases carried <;> rfl

theorem flags_of_handshake {c : Circumstances} {request : Settings} {port : UInt16}
    {sender : SocketAddress} {r : EStateM.Result HandlerFault (Server σ) Unit}
    (ends : Handshake.Ends backend c request port sender s r) : (Handler.after r).flags = s.flags := by
  cases ends with
  | unprepared | unanswerable => rfl
  | unsent => exact flags_sealing .control
  | unconnected => exact flags_answered ..
  | @unstarted device device' settings | @paired device device' settings =>
    exact flags_answered .control sender settings.encode (s := s.unpaired device)

theorem flags_of_command {c : Circumstances} {command : Command} {sender : SocketAddress}
    {r : EStateM.Result HandlerFault (Server σ) (Option OsError)}
    (ends : Control.Ends backend c command sender s r) : (Handler.after r).flags = s.flags := by
  have silenced (t : Server σ) : (Control.silence backend t).flags = t.flags := rfl
  cases ends with
  | failed carried => exact flags_of_carried carried
  | acknowledged carried => exact (flags_answered ..).trans (flags_of_carried carried)
  | silenced carried =>
    exact (silenced _).trans ((flags_sealing .command).trans (flags_of_carried carried))

theorem flags_handle (backend : Device σ) (w : Worker) (c : Circumstances) (packet : List UInt8)
    (sender : SocketAddress) (s : Server σ) :
    (Handler.after (handle backend w c packet sender s)).flags = s.flags := by
  cases w with
  | control =>
    rw [after_handle_control]
    cases asked : Handshake.requestIn s.control.framer.codec.key packet with
    | error e =>
      rw [Handshake.handle_unread asked]
      exact flags_opened .control packet
    | ok found =>
      rw [Handshake.handle_read asked]
      exact (flags_of_handshake (Handshake.pair_ends ..)).trans (flags_opened .control packet)
  | command =>
    change (Handler.after (Control.handle backend c packet sender s)).flags = s.flags
    cases asked : Control.commandIn s.command.framer.codec.key packet with
    | error e =>
      rw [Control.handle_unread asked]
      exact flags_opened .command packet
    | ok command =>
      exact (flags_of_command (Control.handle_ends asked)).trans (flags_opened .command packet)

theorem flags_emit (send : Option OsError) (bytes : List UInt8) :
    (s.emit send bytes).2.flags = s.flags := by
  obtain ⟨audio, ivs, datagrams, -, frame⟩ := emit_frame send bytes s
  rw [frame]
  rfl

theorem receive_flags (backend : Device σ) (w : Worker) (c : Circumstances) (arrival : Arrival)
    (s : Server σ) :
    (s.receive backend w c arrival).2.flags = s.flags ∨
      (s.worker w).ended = false ∧
        ∃ t : Server σ, t.flags = s.flags ∧ (s.receive backend w c arrival).2 = t.endWorker w := by
  cases awake : (s.worker w).ended with
  | true =>
    rw [receive_ended awake]
    exact .inl rfl
  | false =>
    cases arrival with
    | failure e =>
      rw [receive_failure awake]
      split
      · exact .inl rfl
      · exact .inr ⟨rfl, s, rfl, rfl⟩
    | datagram bytes sender =>
      have stored : (s.store w (bytes.take receiveLength)).flags = s.flags := flags_store w _
      cases running : s.running with
      | false =>
        rw [receive_datagram_exiting running awake]
        exact .inr ⟨rfl, _, stored, rfl⟩
      | true =>
        rw [receive_datagram running awake]
        have handled := (flags_handle backend w c (bytes.take receiveLength) sender _).trans stored
        cases result : handle backend w c (bytes.take receiveLength) sender
            (s.store w (bytes.take receiveLength)) with
        | ok lost t =>
          rw [result] at handled
          exact .inl handled
        | error fault t =>
          rw [result] at handled
          cases fault with
          | failed e => exact .inl handled
          -- A crash ends the loop where the handler has left the server.
          | crashed => exact .inr ⟨rfl, t, handled, rfl⟩

end Flags

/-- While the server runs both loops are awake and its sockets open, and no loop outlives a shutdown. -/
structure Ordered (s : Server σ) : Prop where
  awake (running : s.running = true) (w : Worker) : (s.worker w).ended = false
  unclosed (running : s.running = true) : s.closed = false
  shut (closed : s.closed = true) (w : Worker) : (s.worker w).ended = true

namespace Ordered

variable {backend : Device σ} {s t : Server σ}

theorem initial (backend : Device σ) (key : Key) (format : Audio.Format) (commandPort : UInt16)
    (device : σ) (ivs : IvSource) :
    (Server.initial backend key format commandPort device ivs).Ordered where
  awake _ w := by cases w <;> rfl
  unclosed _ := rfl
  shut closed := by cases closed

theorem of_flags (ordered : s.Ordered) (same : t.flags = s.flags) : t.Ordered where
  awake running w := by
    rw [ended_of_flags same]
    exact ordered.awake ((congrArg Flags.running same).symm.trans running) w
  unclosed running := by
    rw [show t.closed = s.closed from congrArg Flags.closed same]
    exact ordered.unclosed ((congrArg Flags.running same).symm.trans running)
  shut closed w := by
    rw [ended_of_flags same]
    exact ordered.shut ((congrArg Flags.closed same).symm.trans closed) w

theorem endWorker (ordered : s.Ordered) {w : Worker} (awake : (s.worker w).ended = false) :
    (s.endWorker w).Ordered where
  awake running := by cases running
  unclosed running := by cases running
  shut closed := by
    have closed : s.closed = true := (setWorker_closed ..).symm.trans closed
    cases awake.symm.trans (ordered.shut closed w)

theorem isRunning (ordered : s.Ordered) : s.isRunning = s.running := by
  cases running : s.running with
  | false => simp [Server.isRunning, running]
  | true => simp [Server.isRunning, running, ordered.unclosed running]

theorem receive (ordered : s.Ordered) (w : Worker) (c : Circumstances) (arrival : Arrival) :
    (s.receive backend w c arrival).2.Ordered := by
  obtain same | ⟨awake, t, same, ends⟩ := receive_flags backend w c arrival s
  · exact ordered.of_flags same
  · rw [ends]
    exact (ordered.of_flags same).endWorker ((ended_of_flags same w).trans awake)

theorem shutdown (ordered : s.Ordered) : (s.shutdown backend).Ordered := by
  unfold Server.shutdown
  split
  · exact ordered
  · exact ⟨nofun, nofun, fun _ w => by cases w <;> rfl⟩

theorem step (ordered : s.Ordered) (event : Event) : (s.step backend event).Ordered := by
  cases event with
  | arrival w c arrival => exact ordered.receive w c arrival
  | chunk send bytes => exact ordered.of_flags (flags_emit send bytes)
  | shutdown => exact ordered.shutdown

theorem run (ordered : s.Ordered) (events : List Event) : (s.run backend events).Ordered := by
  induction events generalizing s with
  | nil => exact ordered
  | cons event rest ih => exact ih (ordered.step event)

end Ordered

section Running

variable {backend : Device σ} {s : Server σ}

theorem settle_eq_after (w : Worker) {α : Type} {r : EStateM.Result HandlerFault (Server σ) α}
    (sane : ∀ left, r ≠ .error .crashed left) : settle w r = Handler.after r := by
  cases r with
  | ok value t => rfl
  | error fault t =>
    cases fault with
    | failed e => rfl
    | crashed => exact absurd rfl (sane t)

theorem step_of_calm (ordered : s.Ordered) (running : s.running = true) {event : Event}
    (calm : ¬ Fatal backend s event) :
    s.step backend event = s.serve backend event ∧ (s.serve backend event).running = true := by
  -- Of the failures only a reset is calm, and of the handlers those that do not crash.
  cases event with
  | arrival w c arrival =>
    have awake := ordered.awake running w
    cases arrival with
    | failure e =>
      have reset : e = .connectionReset := Decidable.not_not.mp calm
      rw [step, receive_failure awake, if_pos reset]
      exact ⟨rfl, running⟩
    | datagram bytes sender =>
      have handled := flags_handle backend w c (bytes.take receiveLength) sender
        (s.store w (bytes.take receiveLength))
      rw [step, receive_datagram running awake, settle_eq_after w fun left crash => calm ⟨left, crash⟩]
      exact ⟨rfl, (congrArg Flags.running (handled.trans (flags_store w _))).trans running⟩
  | chunk send bytes => exact ⟨rfl, (congrArg Flags.running (flags_emit send bytes)).trans running⟩
  | shutdown => exact absurd trivial calm

theorem running_step_of_fatal (ordered : s.Ordered) (running : s.running = true) {event : Event}
    (fatal : Fatal backend s event) : (s.step backend event).running = false := by
  cases event with
  | arrival w c arrival =>
    have awake := ordered.awake running w
    cases arrival with
    | failure e =>
      rw [step, receive_failure awake, if_neg fatal]
      rfl
    | datagram bytes sender =>
      obtain ⟨left, crash⟩ := fatal
      rw [step, receive_datagram running awake, crash]
      rfl
  | chunk send bytes => cases fatal
  | shutdown =>
    rw [step, Server.shutdown, if_neg (by rw [ordered.unclosed running]; decide)]
    rfl

theorem running_step_of_down (down : s.running = false) (event : Event) :
    (s.step backend event).running = false := by
  cases event with
  | arrival w c arrival =>
    obtain same | ⟨-, t, -, ends⟩ := receive_flags backend w c arrival s
    · exact (congrArg Flags.running same).trans down
    · rw [step, ends]
      rfl
  | chunk send bytes => exact (congrArg Flags.running (flags_emit send bytes)).trans down
  | shutdown =>
    rw [step, Server.shutdown]
    split
    · exact down
    · rfl

theorem running_step_iff (ordered : s.Ordered) (event : Event) :
    (s.step backend event).running = true ↔ s.running = true ∧ ¬ Fatal backend s event := by
  cases running : s.running with
  | false => simp [running_step_of_down running]
  | true =>
    constructor
    · intro still
      refine ⟨rfl, fun fatal => ?_⟩
      rw [running_step_of_fatal ordered running fatal] at still
      cases still
    · rintro ⟨-, calm⟩
      obtain ⟨served, still⟩ := step_of_calm ordered running calm
      rw [served]
      exact still

theorem running_run_iff (ordered : s.Ordered) (events : List Event) :
    (s.run backend events).running = true ↔ s.running = true ∧ s.Calm backend events := by
  -- Over the events, for every ordered server: it runs after the first just if that was not fatal.
  induction events generalizing s with
  | nil => simp [run, Calm]
  | cons event rest ih =>
    rw [run, ih (ordered.step event), running_step_iff ordered event, Calm, and_assoc]

theorem run_eq_serve (ordered : s.Ordered) (running : s.running = true) {events : List Event}
    (calm : s.Calm backend events) : s.run backend events = events.foldl (serve backend) s := by
  -- Over the events: as long as none is fatal, a step is what it serves.
  induction events generalizing s with
  | nil => rfl
  | cons event rest ih =>
    obtain ⟨first, later⟩ := calm
    obtain ⟨served, still⟩ := step_of_calm ordered running first
    rw [run, List.foldl_cons, ← served]
    exact ih (ordered.step event) (served ▸ still) later

theorem receive_down (backend : Device σ) (down : s.running = false) (w : Worker) (c : Circumstances)
    (bytes : List UInt8) (sender : SocketAddress) :
    s.receive backend w c (.datagram bytes sender) = (.ended, s) ∨
      s.receive backend w c (.datagram bytes sender) =
        (.exiting, (s.store w (bytes.take receiveLength)).endWorker w) := by
  unfold receive
  cases awake : (s.worker w).ended with
  | true => exact .inl rfl
  | false =>
    have still : (s.store w (bytes.take receiveLength)).running = false :=
      (setWorker_running ..).trans down
    simp [still]

end Running

section Closed

variable (backend : Device σ) {s : Server σ}

theorem closed_step {event : Event} (other : event ≠ .shutdown) :
    (s.step backend event).closed = s.closed := by
  cases event with
  | arrival w c arrival =>
    obtain same | ⟨-, t, same, ends⟩ := receive_flags backend w c arrival s
    · exact congrArg Flags.closed same
    · rw [step, ends]
      exact (setWorker_closed ..).trans (congrArg Flags.closed same)
  | chunk send bytes => exact congrArg Flags.closed (flags_emit send bytes)
  | shutdown => exact absurd rfl other

theorem closed_run {events : List Event} (unshut : .shutdown ∉ events) :
    (s.run backend events).closed = s.closed := by
  induction events generalizing s with
  | nil => rfl
  | cons event rest ih =>
    obtain ⟨other, later⟩ : .shutdown ≠ event ∧ .shutdown ∉ rest := by simpa using unshut
    rw [run, ih later, closed_step backend other.symm]

theorem step_of_closed (ordered : s.Ordered) (closed : s.closed = true) (event : Event) :
    (s.step backend event).pairing = s.pairing ∧ (s.step backend event).closed = true := by
  cases event with
  | arrival w c arrival =>
    rw [step, receive_ended (ordered.shut closed w)]
    exact ⟨rfl, closed⟩
  | chunk send bytes =>
    obtain ⟨audio, ivs, datagrams, -, frame⟩ := emit_frame send bytes s
    rw [step, frame]
    exact ⟨rfl, closed⟩
  | shutdown =>
    rw [step, Server.shutdown, if_pos closed]
    exact ⟨rfl, closed⟩

theorem run_of_closed (ordered : s.Ordered) (closed : s.closed = true) (events : List Event) :
    (s.run backend events).pairing = s.pairing ∧ (s.run backend events).closed = true := by
  -- Over the events, for every closed server: a step leaves it closed, with the pairing it had.
  induction events generalizing s with
  | nil => exact ⟨rfl, closed⟩
  | cons event rest ih =>
    obtain ⟨same, still⟩ := step_of_closed backend ordered closed event
    obtain ⟨later, stays⟩ := ih (ordered.step event) still
    exact ⟨later.trans same, stays⟩

theorem run_append (s : Server σ) (events later : List Event) :
    s.run backend (events ++ later) = (s.run backend events).run backend later := by
  induction events generalizing s with
  | nil => rfl
  | cons event rest ih => exact ih _

theorem shutdown_open (closed : s.closed = false) :
    (s.shutdown backend).pairing = (s.halt backend).pairing ∧ (s.shutdown backend).closed = true := by
  rw [shutdown, if_neg (by rw [closed]; decide)]
  exact ⟨rfl, rfl⟩

theorem pairing_of_shutdown (ordered : s.Ordered) {before : List Event} (first : .shutdown ∉ before)
    (closed : s.closed = false) (after : List Event) :
    (s.run backend (before ++ .shutdown :: after)).pairing =
      ((s.run backend before).halt backend).pairing := by
  have unshut := (closed_run backend first).trans closed
  obtain ⟨left, shut⟩ := shutdown_open backend unshut
  rw [run_append, run]
  exact (run_of_closed backend (ordered.run before).shutdown shut after).1.trans left

theorem shutdown_run_shutdown (ordered : s.Ordered) (before after : List Event) :
    let t := s.run backend (before ++ .shutdown :: after)
    t.shutdown backend = t := by
  have shut : ((s.run backend before).shutdown backend).closed = true := by
    cases closed : (s.run backend before).closed with
    | false => exact (shutdown_open backend closed).2
    | true =>
      rw [shutdown, if_pos closed]
      exact closed
  rw [run_append, run]
  exact if_pos (run_of_closed backend (ordered.run before).shutdown shut after).2

end Closed

/-- The life of a server, from whatever state it begins in. -/
structure LifeCycle (backend : Device σ) (s : Server (Watched σ Calls)) : Prop where
  /-- It runs as long as no event was fatal, and never again. -/
  running (events : List Event) :
    (s.run backend.recorded events).isRunning = true ↔ s.Calm backend.recorded events
  /-- Until then it does nothing but hand each datagram, in order, to the handler of its worker, whatever
  earlier ones came to. -/
  served (events : List Event) (calm : s.Calm backend.recorded events) :
    s.run backend.recorded events = events.foldl (serve backend.recorded) s
  /-- The same goes for the datagram that crashes its handler: it is handled, once. -/
  handled (events : List Event) (calm : s.Calm backend.recorded events) (w : Worker) (c : Circumstances)
      (bytes : List UInt8) (sender : SocketAddress) :
    let t := s.run backend.recorded events
    let received := bytes.take receiveLength
    let result := handle backend.recorded w c received sender (t.store w received)
    t.receive backend.recorded w c (.datagram bytes sender) = (.ofResult result, settle w result)
  /-- Afterwards no datagram is handled: none is answered, and backend and session do not notice. -/
  deaf (events : List Event) (down : ¬ s.Calm backend.recorded events) (w : Worker) (c : Circumstances)
      (bytes : List UInt8) (sender : SocketAddress) :
    let t := s.run backend.recorded events
    let (report, u) := t.receive backend.recorded w c (.datagram bytes sender)
    (report = .exiting ∨ report = .ended) ∧
      u.pairing = t.pairing ∧ u.sent = t.sent ∧ u.sessions = t.sessions
  /-- The first shutdown stops the backend once, and leaves the session as it was, but stopped. -/
  shut (before after : List Event) (first : .shutdown ∉ before) :
    let t := s.run backend.recorded before
    let u := s.run backend.recorded (before ++ .shutdown :: after)
    u.pairing.device.seen = t.pairing.device.seen ++ [(.stop, true)] ∧
      u.session = t.session.map fun session => { session with state := .stopped }
  /-- There is nothing left for another one. -/
  final (before after : List Event) :
    let t := s.run backend.recorded (before ++ .shutdown :: after)
    t.shutdown backend.recorded = t

theorem life_cycle {backend : Device σ} {config : Config} {device : Watched σ Calls}
    {commandPort : UInt16} {ivs : IvSource} {setup : Setup} {s : Server (Watched σ Calls)}
    (started : start backend.recorded config device commandPort ivs setup = .ok s) :
    LifeCycle backend s := by
  obtain ⟨key, -, rfl⟩ := eq_initial_of_start started
  have ordered := Ordered.initial backend.recorded key config.format commandPort device ivs
  constructor
  case running =>
    intro events
    rw [(ordered.run events).isRunning, running_run_iff ordered events]
    exact ⟨And.right, fun calm => ⟨rfl, calm⟩⟩
  case served => exact fun events calm => run_eq_serve ordered rfl calm
  case handled =>
    intro events calm w c bytes sender
    have running := (running_run_iff ordered events).mpr ⟨rfl, calm⟩
    exact receive_running _ running ((ordered.run events).awake running w) c bytes sender
  case deaf =>
    intro events fatal w c bytes sender
    have down : ((initial backend.recorded key config.format commandPort device ivs).run
        backend.recorded events).running = false := by
      rw [← Bool.not_eq_true, running_run_iff ordered events]
      exact fun calm => fatal calm.2
    rcases receive_down backend.recorded down w c bytes sender with deaf | exits
    · simp [deaf]
    · simp [exits, store, endWorker]
  case shut =>
    intro before after first
    simp only [pairing_of_shutdown backend.recorded ordered first rfl after, Server.session]
    exact ⟨rfl, rfl⟩
  case final => exact fun before after => shutdown_run_shutdown backend.recorded ordered before after

/-- A backend that crashes when it is initialised takes the server down with the first request. -/
theorem life_cycle_of_crashing :
    let crashing : Watched Scripted Calls := ⟨{ script := { crashPrepare := true } }, []⟩
    let s := Standard.server Scripted.device.recorded crashing
    let handshake : Event := .arrival .control {} (.datagram Standard.request Standard.client)
    start Scripted.device.recorded Standard.config crashing 5541 (.seeded default) {} = .ok s ∧
      LifeCycle Scripted.device s ∧
      (s.run Scripted.device.recorded [.chunk none []]).isRunning = true ∧
      (s.run Scripted.device.recorded [handshake]).isRunning = false := by
  intro crashing s handshake
  have started : start Scripted.device.recorded Standard.config crashing 5541 (.seeded default) {} =
      .ok s := Standard.start ..
  have alive := life_cycle started
  refine ⟨started, alive, (alive.running _).mpr ⟨id, trivial⟩, ?_⟩
  have crash : Fatal Scripted.device.recorded s handshake :=
    fatal_of_prepare Standard.requestIn_received rfl
  rw [← Bool.not_eq_true, alive.running]
  exact fun calm => calm.1 crash

end Server

end PairedAudio
