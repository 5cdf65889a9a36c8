import PairedAudio.Proofs.Closing.System

/-! The steps of a worker, and those of a shutdown, are what each does in one piece if nobody comes
between them. -/

set_option autoImplicit false

namespace PairedAudio.Closing

open Capture (Device)
open Cipher (Key)
open Wire (Settings)

variable {σ : Type} {backend : Device σ} {s : System σ} {w : Worker}

namespace System

def turn (w : Worker) (c : Circumstances) (arrival : Arrival) : List Move :=
  [.arrive w c arrival, .work w, .work w, .work w]

theorem put_stage_self (w : Worker) (stage : Stage) (s : System σ) : (s.put w stage).stage w = stage :=
  Function.update_self ..

theorem put_stage_other {w other : Worker} (differ : other ≠ w) (stage : Stage) (s : System σ) :
    (s.put w stage).stage other = s.stage other := Function.update_of_ne differ ..

theorem work_idle (idle : s.stage w = .receiving ∨ s.stage w = .ended) : s.work backend w = s := by
  unfold work
  rcases idle with receiving | ended
  · rw [receiving]
  · rw [ended]

theorem work_testing {c : Circumstances} {packet : List UInt8} {sender : SocketAddress}
    (testing : s.stage w = .testing c packet sender) :
    s.work backend w = s.put w (if s.server.running then .handling c packet sender else .leaving) := by
  rw [work, testing]

theorem work_leaving (leaving : s.stage w = .leaving) :
    s.work backend w = put w .ended { s with server := s.server.endWorker w } := by
  rw [work, leaving]

theorem leave_alone (leaving : s.stage w = .leaving) :
    (s.work backend w).work backend w = put w .ended { s with server := s.server.endWorker w } := by
  rw [work_leaving leaving, work_idle (.inr (put_stage_self ..))]

theorem work_silencing (silencing : s.stage w = .silencing) :
    s.work backend w = put w .receiving { s with server := Control.silence backend s.server } := by
  rw [work, silencing]

theorem work_handshake {c : Circumstances} {packet : List UInt8} {sender : SocketAddress}
    (handling : s.stage .control = .handling c packet sender) :
    s.work backend .control = s.handshake backend c packet sender := by
  rw [work, handling]

theorem work_command {c : Circumstances} {packet : List UInt8} {sender : SocketAddress}
    (handling : s.stage .command = .handling c packet sender) :
    s.work backend .command = s.command backend c packet sender := by
  rw [work, handling]

theorem arrive_datagram (receiving : s.stage w = .receiving) (c : Circumstances) (bytes : List UInt8)
    (sender : SocketAddress) :
    s.arrive w c (.datagram bytes sender) = put w (.testing c (bytes.take receiveLength) sender)
      { s with server := s.server.store w (bytes.take receiveLength) } := by
  unfold arrive
  rw [receiving]

theorem arrive_failure (receiving : s.stage w = .receiving) (c : Circumstances) (e : OsError) :
    s.arrive w c (.failure e) = if e = .connectionReset then s else s.put w .leaving := by
  unfold arrive
  rw [receiving]

theorem handshake_unread {c : Circumstances} {packet : List UInt8} {sender : SocketAddress}
    {e : CodecError}
    (unread : Handshake.requestIn s.server.control.framer.codec.key packet = .error e) :
    s.handshake backend c packet sender =
      put .control .receiving { s with server := s.server.opened .control packet } := by
  unfold handshake
  rw [Handshake.read_eq, unread]

theorem handshake_read {c : Circumstances} {packet : List UInt8} {sender : SocketAddress}
    {request : Settings} {port : UInt16}
    (asks : Handshake.requestIn s.server.control.framer.codec.key packet = .ok (request, port)) :
    let paired := Handshake.pair backend c request port sender (s.server.opened .control packet)
    s.handshake backend c packet sender = put .control (.behind paired) { s with
      server := Handler.after paired
      handshakes := (Handler.after paired).session :: s.handshakes } := by
  unfold handshake
  rw [Handshake.read_eq, asks]

theorem work_behind {α : Type} {r : EStateM.Result HandlerFault (Server σ) α}
    (behind : s.stage w = .behind r) (left : s.server = Handler.after r) :
    (s.work backend w).server = Server.settle w r := by
  cases r with
  | ok value server =>
    rw [work_idle (.inl behind), left]
    rfl
  | error fault server =>
    cases fault with
    | failed e =>
      rw [work_idle (.inl behind), left]
      rfl
    | crashed =>
      rw [work_leaving behind, left]
      rfl

theorem settle_handle_control (c : Circumstances) (packet : List UInt8) (sender : SocketAddress)
    (server : Server σ) :
    Server.settle .control (Server.handle backend .control c packet sender server) =
      Server.settle .control (Handshake.handle backend c packet sender server) := by
  simp only [Server.handle, bind, EStateM.bind, pure, EStateM.pure]
  cases Handshake.handle backend c packet sender server with
  | ok value server => rfl
  | error fault server => cases fault <;> rfl

theorem handle_alone {c : Circumstances} {packet : List UInt8} {sender : SocketAddress}
    (handling : s.stage w = .handling c packet sender) :
    ((s.work backend w).work backend w).server =
      Server.settle w (Server.handle backend w c packet sender s.server) := by
  cases w with
  | control =>
    rw [work_handshake handling, settle_handle_control]
    cases asked : Handshake.requestIn s.server.control.framer.codec.key packet with
    | error e =>
      rw [handshake_unread asked, Handshake.handle_unread asked,
        work_idle (.inl (put_stage_self ..))]
      rfl
    | ok found =>
      rw [handshake_read asked, Handshake.handle_read asked]
      exact work_behind (put_stage_self ..) rfl
  | command =>
    rw [work_command handling, command]
    change _ = Server.settle .command (Control.handle backend c packet sender s.server)
    rw [Control.handle_eq_dispatch]
    cases halfway : Control.dispatch backend c.network packet sender s.server with
    | error fault server =>
      rw [Handler.bind_error halfway]
      exact work_behind (put_stage_self ..) rfl
    | ok lost server =>
      rw [Handler.bind_ok halfway]
      cases lost with
      | none => exact work_behind (put_stage_self ..) rfl
      | some e =>
        simp only [Control.isLost, if_true]
        rw [work_silencing (put_stage_self ..)]
        rfl

/-- The steps of a worker that nobody comes between are a turn of its loop. -/
theorem turn_alone (receiving : s.stage w = .receiving) (awake : (s.server.worker w).ended = false)
    (c : Circumstances) (arrival : Arrival) :
    (s.run backend (turn w c arrival)).server = (s.server.receive backend w c arrival).2 := by
  simp only [turn, run, step]
  -- Whatever arrives, a step that a worker does not need finds it receiving or ended.
  cases arrival with
  | failure e =>
    rw [arrive_failure receiving, Server.receive_failure awake]
    split
    · rw [work_idle (.inl receiving), work_idle (.inl receiving), work_idle (.inl receiving)]
    · rw [leave_alone (put_stage_self ..), work_idle (.inr (put_stage_self ..))]
      rfl
  | datagram bytes sender =>
    rw [arrive_datagram receiving, work_testing (put_stage_self ..)]
    have still : (s.server.store w (bytes.take receiveLength)).running = s.server.running :=
      Server.setWorker_running ..
    cases running : s.server.running with
    | true =>
      rw [Server.receive_datagram running awake]
      simp only [put, still, running, if_true]
      exact handle_alone (Function.update_self ..)
    | false =>
      rw [Server.receive_datagram_exiting running awake]
      simp only [put, still, running, Bool.false_eq_true, if_false]
      exact congrArg System.server (leave_alone (Function.update_self ..))

theorem turn_of_ends {key : Key} (sound : s.server.Sound key) (receiving : s.stage .control = .receiving)
    (running : s.server.running = true) {c : Circumstances} {bytes : List UInt8}
    {sender : SocketAddress} {request : Settings} {port : UInt16}
    (asks : Handshake.requestIn key.block (bytes.take receiveLength) = .ok (request, port))
    {r : EStateM.Result HandlerFault (Server σ) Unit}
    (ends : Handshake.Ends backend c request port sender
      ((s.server.store .control (bytes.take receiveLength)).opened .control (bytes.take receiveLength)) r)
    (sane : Stage.behind r = .receiving) :
    s.run backend (turn .control c (.datagram bytes sender)) = put .control .receiving { s with
      server := Handler.after r
      handshakes := (Handler.after r).session :: s.handshakes } := by
  have still : (s.server.store .control (bytes.take receiveLength)).running = true :=
    (Server.setWorker_running ..).trans running
  let passed := put .control (.handling c (bytes.take receiveLength) sender)
    { s with server := s.server.store .control (bytes.take receiveLength) }
  have tested : (s.arrive .control c (.datagram bytes sender)).work backend .control = passed := by
    rw [arrive_datagram receiving, work_testing (put_stage_self ..)]
    simp only [passed, put, still, if_true, Function.update_idem]
  have handling : passed.stage .control = .handling c (bytes.take receiveLength) sender :=
    put_stage_self ..
  have asked : Handshake.requestIn passed.server.control.framer.codec.key (bytes.take receiveLength) =
      .ok (request, port) :=
    ((Server.sound_kept backend key).store .control _ sound).control ▸ asks
  have handled : passed.work backend .control = put .control .receiving { passed with
      server := Handler.after r
      handshakes := (Handler.after r).session :: s.handshakes } := by
    rw [work_handshake handling, handshake_read asked, ← sane, ← Handshake.pair_of_ends ends]
    rfl
  simp only [turn, run, step]
  rw [tested, handled, work_idle (.inl (put_stage_self ..))]
  simp only [passed, put, Function.update_idem]

theorem turn_stopped (receiving : s.stage w = .receiving) (stopped : s.server.running = false)
    (c : Circumstances) (bytes : List UInt8) (sender : SocketAddress) :
    s.run backend (turn w c (.datagram bytes sender)) = put w .ended { s with
      server := (s.server.store w (bytes.take receiveLength)).endWorker w } := by
  have still : (s.server.store w (bytes.take receiveLength)).running = false :=
    (Server.setWorker_running ..).trans stopped
  simp only [turn, run, step]
  rw [arrive_datagram receiving, work_testing (put_stage_self ..)]
  simp only [put, still, Bool.false_eq_true, if_false]
  rw [leave_alone (Function.update_self ..)]
  simp only [put, Function.update_idem]

/-- The steps of a shutdown, with those of the workers that it wakes by empty datagrams. -/
def closing (sender : SocketAddress) : List Move :=
  [.shutdown, .shutdown] ++ turn .control {} (.datagram [] sender) ++
    turn .command {} (.datagram [] sender) ++ [.shutdown]

theorem store_nil (w : Worker) (server : Server σ) : server.store w [] = server := by
  cases w <;> rfl

/-- A shutdown that nobody comes between, and the two workers that wait for datagrams, do what the
shutdown of a server does in one piece. -/
theorem closing_alone (backend : Device σ) (opened : s.phase = .opened) (control : s.stage .control = .receiving)
    (command : s.stage .command = .receiving) (unclosed : s.server.closed = false)
    (sender : SocketAddress) :
    let t := s.run backend (closing sender)
    t.server = s.server.shutdown backend ∧ t.phase = .closed ∧
      t.session = (s.server.shutdown backend).session ∧ t.handshakes = s.handshakes := by
  intro t
  let cleared : System σ := { s with
    server := { s.server.halt backend with running := false }
    phase := .cleared
    final := (s.server.halt backend).session }
  have stops : s.run backend [.shutdown, .shutdown] = cleared := by
    simp only [run, step, shutdown, opened]
    rfl
  have idle : cleared.stage .control = .receiving := control
  let halfway := put .control .ended { cleared with server := cleared.server.endWorker .control }
  have waits : halfway.stage .command = .receiving := (put_stage_other (by decide) ..).trans command
  have first : cleared.run backend (turn .control {} (.datagram [] sender)) = _ :=
    turn_stopped idle rfl {} [] sender
  have second : halfway.run backend (turn .command {} (.datagram [] sender)) = _ :=
    turn_stopped waits rfl {} [] sender
  rw [List.take_nil, store_nil] at first second
  have ended : t = { s with
      server := s.server.shutdown backend
      stage := Function.update (Function.update s.stage .control .ended) .command .ended
      phase := .closed
      final := (s.server.halt backend).session } := by
    have shuts : s.server.shutdown backend =
        { ((s.server.halt backend).endWorker .control).endWorker .command with closed := true } := by
      rw [Server.shutdown, unclosed]
      rfl
    change s.run backend (closing sender) = _
    rw [closing, run_append, run_append, run_append, stops, first, second, shuts]
    rfl
  rw [ended]
  refine ⟨rfl, rfl, ?_, rfl⟩
  rw [Server.shutdown, unclosed]
  rfl

end System

end PairedAudio.Closing
