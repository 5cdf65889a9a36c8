import PairedAudio.Proofs.Backend
import PairedAudio.Proofs.Closing.Alone

/-! What a shutdown ends for good, and what it cannot.

Only a handshake can start the capture or make a session. After the shutdown has cleared the flag, at
most one handshake comes to that: the one whose worker had tested the flag before. If none comes after
the shutdown has stopped the capture, the server stays as the shutdown has left it.
-/

set_option autoImplicit false

namespace PairedAudio.Closing

open Capture (Calls Device Tone Watched)
open Cipher (IvSource Key)
open Wire (Command Settings)

variable {σ : Type}

/-- From one server to the next no capture was started and no session made, and the session there
is has at most changed its state. -/
structure Quiet (s t : Server (Watched σ Calls)) : Prop where
  calls : ∃ calls, t.pairing.device.seen = s.pairing.device.seen ++ calls ∧
    ∀ call ∈ calls, call.1 ≠ .start
  sessions : t.sessions = s.sessions
  session : t.session.map Session.halt = s.session.map Session.halt

namespace Quiet

variable {s t u : Server (Watched σ Calls)}

theorem of_same (pairing : t.pairing = s.pairing) (sessions : t.sessions = s.sessions) : Quiet s t where
  calls := ⟨[], by rw [pairing, List.append_nil], fun _ present => by cases present⟩
  sessions := sessions
  session := by rw [Server.session, pairing, Server.session]

theorem refl (s : Server (Watched σ Calls)) : Quiet s s := of_same rfl rfl

theorem trans (first : Quiet s t) (second : Quiet t u) : Quiet s u := by
  obtain ⟨calls, seen, quiet⟩ := first.calls
  obtain ⟨others, seen', quiet'⟩ := second.calls
  refine ⟨⟨calls ++ others, ?_, ?_⟩, second.sessions.trans first.sessions,
    second.session.trans first.session⟩
  · rw [seen', seen, List.append_assoc]
  · intro call present
    rcases List.mem_append.mp present with earlier | later
    · exact quiet call earlier
    · exact quiet' call later

theorem of_call {call : Capture.DeviceCall} {succeeded : Bool}
    (seen : t.pairing.device.seen = s.pairing.device.seen ++ [(call, succeeded)])
    (other : call ≠ .start) (sessions : t.sessions = s.sessions)
    (session : t.session.map Session.halt = s.session.map Session.halt) : Quiet s t where
  calls := ⟨[(call, succeeded)], seen, fun _ present => by
    rw [List.mem_singleton.mp present]
    exact other⟩
  sessions := sessions
  session := session

variable {backend : Device σ}

theorem of_carried {command : Command} {r : EStateM.Result HandlerFault (Server (Watched σ Calls)) Unit}
    (carried : Control.Carried backend.recorded s command r) : Quiet s (Handler.after r) := by
  have moved (state : SessionState) :
      (s.session.map (Session.command state)).map Session.halt = s.session.map Session.halt := by
    rw [Option.map_map, Session.halt_comp_command]
  cases carried with
  | pinged => exact refl s
  | switched set => exact of_call (Capture.recorded_setPlaying_ok set) nofun rfl (moved _)
  | unswitched failed => exact of_call (Capture.recorded_setPlaying_error failed) nofun rfl rfl
  | stopped => exact of_call rfl nofun rfl (moved _)

theorem of_dispatch (c : Circumstances) (packet : List UInt8) (sender : SocketAddress)
    (s : Server (Watched σ Calls)) :
    Quiet s (Handler.after (Control.dispatch backend.recorded c.network packet sender s)) := by
  have opened : Quiet s (s.opened .command packet) :=
    of_same (Server.opened_pairing ..) (Server.opened_sessions ..)
  refine Control.after_dispatch _ c packet sender s opened ?_ ?_ ?_
  · exact fun carried => opened.trans (of_carried carried)
  · exact fun quiet => quiet.trans (of_same rfl rfl)
  · exact fun _ quiet => quiet.trans (of_same rfl rfl)

theorem of_silence (s : Server (Watched σ Calls)) : Quiet s (Control.silence backend.recorded s) :=
  of_call rfl nofun rfl (by
    cases present : s.pairing.session <;> simp [Control.silence, Server.session, present, Session.halt])

theorem of_halt (s : Server (Watched σ Calls)) : Quiet s (s.halt backend.recorded) :=
  of_call rfl nofun rfl (by
    cases present : s.pairing.session <;> simp [Server.halt, Server.session, present, Session.halt])

end Quiet

/-- What counts of a step: either nothing, or all of a handshake. -/
inductive Effect (s t : System (Watched σ Calls)) : Prop
  | quiet (quiet : Quiet s.server t.server) (handshakes : t.handshakes = s.handshakes)
  | paired (handled : (s.stage .control).isHandling = true)
      (behind : (t.stage .control).isHandling = false)
      (left : t.handshakes = t.server.session :: s.handshakes)

structure Stepped (s t : System (Watched σ Calls)) : Prop where
  effect : Effect s t
  /-- Once the flag is cleared it stays so, and no worker comes to its handler any more. -/
  stopped : s.server.running = false → t.server.running = false ∧
    ((t.stage .control).isHandling = true → (s.stage .control).isHandling = true)
  /-- Only the stop of the shutdown sets the session that is kept. -/
  final : s.phase ≠ .opened → t.final = s.final ∧ t.phase ≠ .opened

namespace System

theorem handling_of_put {t : System σ} {w : Worker} {stage : Stage} (calm : stage.isHandling = false)
    (handling : ((t.put w stage).stage .control).isHandling = true) :
    (t.stage .control).isHandling = true := by
  cases w with
  | control =>
    rw [put_stage_self, calm] at handling
    cases handling
  | command =>
    rw [put_stage_other (by decide)] at handling
    exact handling

theorem behind_calm {α : Type} (r : EStateM.Result HandlerFault (Server σ) α) :
    (Stage.behind r).isHandling = false := by
  cases r with
  | ok value t => rfl
  | error fault t => cases fault <;> rfl

theorem running_dispatch (backend : Device σ) {c : Circumstances} {packet : List UInt8}
    {sender : SocketAddress} {server : Server σ} :
    (Handler.after (Control.dispatch backend c.network packet sender server)).running =
      server.running := by
  have opened : (server.opened .command packet).running = server.running := Server.setWorker_running ..
  refine Control.after_dispatch (fun t => t.running = server.running) c packet sender server opened
    ?_ ?_ ?_
  · intro command r carried
    rw [← opened]
    cases carried <;> rfl
  · exact fun same => same
  · exact fun _ same => same

theorem stepped_refl (s : System (Watched σ Calls)) : Stepped s s :=
  ⟨.quiet (.refl _) rfl, fun off => ⟨off, id⟩, fun closing => ⟨rfl, closing⟩⟩

theorem stepped_put {s : System (Watched σ Calls)} {w : Worker} {stage : Stage}
    {server : Server (Watched σ Calls)} (calm : stage.isHandling = false)
    (quiet : Quiet s.server server)
    (stopped : s.server.running = false → server.running = false) :
    Stepped s (put w stage { s with server }) :=
  ⟨.quiet quiet rfl, fun off => ⟨stopped off, handling_of_put calm⟩, fun closing => ⟨rfl, closing⟩⟩

variable (backend : Device σ) (s : System (Watched σ Calls))

theorem stepped_arrive (w : Worker) (c : Circumstances) (arrival : Arrival) :
    Stepped s (s.arrive w c arrival) := by
  unfold arrive
  split
  · exact stepped_put rfl (.of_same (Server.setWorker_pairing ..) (Server.setWorker_sessions ..))
      (Server.setWorker_running ..).trans
  · split
    · exact stepped_refl s
    · exact stepped_put rfl (.refl _) id
  · exact stepped_refl s

theorem stepped_handshake {c : Circumstances} {packet : List UInt8} {sender : SocketAddress}
    (handling : s.stage .control = .handling c packet sender) :
    Stepped s (s.handshake backend.recorded c packet sender) := by
  cases asked : Handshake.requestIn s.server.control.framer.codec.key packet with
  | error e =>
    rw [handshake_unread asked]
    exact stepped_put rfl (.of_same (Server.opened_pairing ..) (Server.opened_sessions ..))
      (Server.setWorker_running ..).trans
  | ok found =>
    rw [handshake_read asked]
    have kept := Handshake.frame_of_ends (Handshake.pair_ends backend.recorded c found.1 found.2 sender
      (s.server.opened .control packet))
    refine ⟨.paired (by rw [handling]; rfl) ?_ rfl, fun off => ⟨?_, ?_⟩, fun closing => ⟨rfl, closing⟩⟩
    · rw [put_stage_self]
      exact behind_calm _
    · exact kept.running.trans ((Server.setWorker_running ..).trans off)
    · exact handling_of_put (behind_calm _)

theorem stepped_work (w : Worker) : Stepped s (s.work backend.recorded w) := by
  cases stage : s.stage w with
  | receiving =>
    rw [work_idle (.inl stage)]
    exact stepped_refl s
  | ended =>
    rw [work_idle (.inr stage)]
    exact stepped_refl s
  | testing c packet sender =>
    rw [work_testing stage]
    refine ⟨.quiet (.refl _) rfl, fun off => ⟨off, ?_⟩, fun closing => ⟨rfl, closing⟩⟩
    -- A test that finds the flag cleared does not lead to the handler.
    rw [off]
    exact handling_of_put rfl
  | handling c packet sender =>
    cases w with
    | control =>
      rw [work_handshake stage]
      exact stepped_handshake backend s stage
    | command =>
      rw [work_command stage]
      refine stepped_put ?_ (.of_dispatch c packet sender s.server) (running_dispatch _).trans
      split
      · rfl
      · exact behind_calm _
  | silencing =>
    rw [work_silencing stage]
    exact stepped_put rfl (.of_silence _) id
  | leaving =>
    rw [work_leaving stage]
    exact stepped_put rfl (.of_same (Server.setWorker_pairing ..) (Server.setWorker_sessions ..))
      fun _ => rfl

theorem stepped_shutdown : Stepped s (s.shutdown backend.recorded) := by
  unfold shutdown
  split
  · rename_i opened
    exact ⟨.quiet (.of_halt _) rfl, fun off => ⟨off, id⟩, fun closing => absurd opened closing⟩
  · exact ⟨.quiet (.of_same rfl rfl) rfl, fun _ => ⟨rfl, id⟩,
      fun _ => ⟨rfl, (by decide : Phase.cleared ≠ .opened)⟩⟩
  · split
    · exact ⟨.quiet (.of_same rfl rfl) rfl, fun off => ⟨off, id⟩,
        fun _ => ⟨rfl, (by decide : Phase.closed ≠ .opened)⟩⟩
    · exact stepped_refl s
  · exact stepped_refl s

theorem stepped (move : Move) : Stepped s (s.step backend.recorded move) := by
  cases move with
  | arrive w c arrival => exact stepped_arrive s w c arrival
  | work w => exact stepped_work backend s w
  | shutdown => exact stepped_shutdown backend s

theorem handshakes_suffix (moves : List Move) :
    s.handshakes <:+ (s.run backend.recorded moves).handshakes := by
  -- Over the moves: a handshake is put in front, and nothing is taken away.
  induction moves generalizing s with
  | nil => exact List.suffix_refl _
  | cons move rest ih =>
    have first : s.handshakes <:+ (s.step backend.recorded move).handshakes := by
      cases (s.stepped backend move).effect with
      | quiet _ same => exact same.symm ▸ List.suffix_refl _
      | paired _ _ left =>
        rw [left]
        exact List.suffix_cons ..
    exact first.trans (ih _)

/-- Without another handshake nothing is started and no session made, whatever else is done. -/
theorem run_quiet (moves : List Move)
    (same : (s.run backend.recorded moves).handshakes = s.handshakes) :
    Quiet s.server (s.run backend.recorded moves).server := by
  -- Over the moves: were one of them a handshake, the list would be longer in the end.
  induction moves generalizing s with
  | nil => exact .refl _
  | cons move rest ih =>
    have grows := (s.step backend.recorded move).handshakes_suffix backend rest
    cases (s.stepped backend move).effect with
    | quiet quiet kept => exact quiet.trans (ih _ (same.trans kept.symm))
    | paired _ _ left =>
      rw [left] at grows
      have longer := grows.length_le
      rw [show (s.step backend.recorded move).run backend.recorded rest =
        s.run backend.recorded (move :: rest) from rfl, same, List.length_cons] at longer
      omega

/-- How many handshakes can still come to the lock once the flag is cleared. -/
def pending (s : System σ) : Nat := if (s.stage .control).isHandling then 1 else 0

theorem handshakes_step_le (stopped : s.server.running = false) (move : Move) :
    (s.step backend.recorded move).handshakes.length + (s.step backend.recorded move).pending ≤
      s.handshakes.length + s.pending := by
  obtain ⟨-, handling⟩ := (s.stepped backend move).stopped stopped
  cases (s.stepped backend move).effect with
  | quiet _ same =>
    have fewer : (s.step backend.recorded move).pending ≤ s.pending := by
      unfold pending
      split
      · rename_i still
        exact Nat.le_of_eq (if_pos (handling still)).symm
      · exact Nat.zero_le _
    rw [same]
    exact Nat.add_le_add_left fewer _
  | paired handled behind left =>
    rw [left, pending, pending, handled, behind, List.length_cons]
    simp

/-- After the flag is cleared at most one handshake comes to the lock, and none if none had passed its
test before. -/
theorem handshakes_run_le (stopped : s.server.running = false) (moves : List Move) :
    (s.run backend.recorded moves).handshakes.length ≤ s.handshakes.length + s.pending := by
  -- Over the moves: the handshakes done and those pending together never become more.
  induction moves generalizing s with
  | nil => exact Nat.le_add_right ..
  | cons move rest ih =>
    obtain ⟨still, -⟩ := (s.stepped backend move).stopped stopped
    exact Nat.le_trans (ih _ still) (s.handshakes_step_le backend stopped move)

theorem final_run (closing : s.phase ≠ .opened) (moves : List Move) :
    (s.run backend.recorded moves).final = s.final := by
  -- Over the moves, for every shutdown under way: its stop is not made again.
  induction moves generalizing s with
  | nil => rfl
  | cons move rest ih =>
    obtain ⟨same, still⟩ := (s.stepped backend move).final closing
    exact (ih _ still).trans same

def latest (s : System σ) : Option Session := s.handshakes.head?.join

/-- But for its state, the session is the one that the last handshake has left. -/
theorem session_run (moves : List Move)
    (last : s.server.session.map Session.halt = s.latest.map Session.halt) :
    (s.run backend.recorded moves).server.session.map Session.halt =
      (s.run backend.recorded moves).latest.map Session.halt := by
  -- Over the moves: a handshake is the new last one, and nothing else changes more than the state.
  induction moves generalizing s with
  | nil => exact last
  | cons move rest ih =>
    refine ih _ ?_
    cases (s.stepped backend move).effect with
    | quiet quiet same => rw [quiet.session, latest, same, last, latest]
    | paired _ _ left =>
      rw [latest, left]
      rfl

/-- What is left of a shutdown once the stop of its capture is behind it. If no handshake comes to the
lock any more, nothing is started and no session made, and in the end the server shows, stopped, what
the last handshake has left. And once the flag is cleared, no handshake comes to the lock any more but
the one that had passed its test before. -/
theorem shutdown_final {backend : Device σ} {config : Config} {device : σ} {commandPort : UInt16}
    {ivs : IvSource} {setup : Setup} {server : Server (Watched σ Calls)}
    (begun : Server.start backend.recorded config ⟨device, []⟩ commandPort ivs setup = .ok server)
    (earlier : List Move) :
    let s := run backend.recorded { server } earlier
    let next := s.step backend.recorded .shutdown
    (s.phase = .opened → ∀ later, (next.run backend.recorded later).handshakes = next.handshakes →
      Quiet next.server (next.run backend.recorded later).server ∧
      ((next.run backend.recorded later).phase = .closed →
        (next.run backend.recorded later).session =
          (next.run backend.recorded later).latest.map Session.halt)) ∧
    (s.phase = .halted → ∀ later,
      (next.run backend.recorded later).handshakes.length ≤ next.handshakes.length + next.pending ∧
      (next.pending = 0 → (next.run backend.recorded later).handshakes = next.handshakes ∧
        Quiet next.server (next.run backend.recorded later).server)) := by
  intro s next
  constructor
  · -- The session that is kept was taken by the stop, so the last handshake before it decides.
    intro opened later same
    refine ⟨next.run_quiet backend later same, fun closed => ?_⟩
    have halted : next = { s with
        server := s.server.halt backend.recorded
        phase := .halted
        final := (s.server.halt backend.recorded).session } := by
      simp only [next, step, shutdown, opened]
    have closing : next.phase ≠ .opened := by
      rw [halted]
      exact (by decide : Phase.halted ≠ .opened)
    have none : server.session = none := by
      obtain ⟨key, -, rfl⟩ := Server.eq_initial_of_start begun
      rfl
    have last : s.server.session.map Session.halt = s.latest.map Session.halt :=
      session_run backend { server } earlier (by rw [none]; rfl)
    rw [session, closed]
    simp only
    rw [next.final_run backend closing later, latest, same, halted]
    exact last
  · -- If nothing is pending the list cannot grow, and then no handshake has come.
    intro halted later
    have stopped : next.server.running = false := by
      simp only [next, step, shutdown, halted]
    have few := next.handshakes_run_le backend stopped later
    refine ⟨few, fun calm => ?_⟩
    rw [calm, Nat.add_zero] at few
    have same := ((next.handshakes_suffix backend later).eq_of_length_le few).symm
    exact ⟨same, next.run_quiet backend later same⟩

section Schedules

variable {backend : Device σ} {key : Key} {s : System σ} {c : Circumstances} {bytes : List UInt8}
  {sender : SocketAddress} {request settings : Settings} {port : UInt16} {device device' : σ}

theorem sessions_of_handling {packet : List UInt8} (sound : s.server.Sound key)
    (handling : s.stage .control = .handling c packet sender)
    (asks : Handshake.requestIn key.block packet = .ok (request, port))
    (prepared : backend.prepare s.server.format (backend.stop s.server.pairing.device) = .ok () device)
    (answers : Handshake.answer request (backend.advertised device) s.server.commandPort = .ok settings)
    (sent : c.reply = none) (connected : c.connect = none)
    (started : backend.start device = .ok () device') :
    (s.work backend .control).server.sessions = s.server.sessions + 1 := by
  have ends : Handshake.Ends backend c request port sender (s.server.opened .control packet) _ :=
    .paired prepared answers sent connected started
  have made : (Handler.after (Handshake.pair backend c request port sender
      (s.server.opened .control packet))).sessions = s.server.sessions + 1 := by
    rw [Handshake.pair_of_ends ends]
    simp [Handler.after, Handshake.begin]
  rw [work_handshake handling, handshake_read (sound.control ▸ asks)]
  exact made

theorem sessions_of_late (sound : s.server.Sound key) (opened : s.phase = .opened)
    (receiving : s.stage .control = .receiving) (running : s.server.running = true)
    (asks : Handshake.requestIn key.block (bytes.take receiveLength) = .ok (request, port))
    (prepared : backend.prepare s.server.format (backend.stop (backend.stop s.server.pairing.device)) =
      .ok () device)
    (answers : Handshake.answer request (backend.advertised device) s.server.commandPort = .ok settings)
    (sent : c.reply = none) (connected : c.connect = none)
    (started : backend.start device = .ok () device') :
    let halted := s.run backend [.arrive .control c (.datagram bytes sender), .work .control, .shutdown]
    (halted.step backend (.work .control)).server.sessions = halted.server.sessions + 1 := by
  intro halted
  have still : (s.server.store .control (bytes.take receiveLength)).running = true :=
    (Server.setWorker_running ..).trans running
  have stopped : halted = put .control (.handling c (bytes.take receiveLength) sender) { s with
      server := (s.server.store .control (bytes.take receiveLength)).halt backend
      phase := .halted
      final := ((s.server.store .control (bytes.take receiveLength)).halt backend).session } := by
    simp only [halted, run, step]
    rw [arrive_datagram receiving, work_testing (put_stage_self ..)]
    simp only [put, still, if_true, Function.update_idem, shutdown, opened]
  have kept : ((s.server.store .control (bytes.take receiveLength)).halt backend).Sound key :=
    (Server.sound_kept backend key).halt ((Server.sound_kept backend key).store .control _ sound)
  rw [stopped]
  exact sessions_of_handling kept (put_stage_self ..) asks prepared answers sent connected started

theorem turn_of_paired (sender : SocketAddress) (sound : s.server.Sound key) (receiving : s.stage .control = .receiving)
    (running : s.server.running = true)
    (asks : Handshake.requestIn key.block (bytes.take receiveLength) = .ok (request, port))
    (prepared : backend.prepare s.server.format (backend.stop s.server.pairing.device) = .ok () device)
    (answers : Handshake.answer request (backend.advertised device) s.server.commandPort = .ok settings)
    (sent : c.reply = none) (connected : c.connect = none)
    (started : backend.start device = .ok () device') :
    ∃ server, server.Sound key ∧ server.running = true ∧ server.closed = s.server.closed ∧
      server.format = s.server.format ∧ server.commandPort = s.server.commandPort ∧
      server.pairing.device = device' ∧
      s.run backend (turn .control c (.datagram bytes sender)) = put .control .receiving { s with
        server
        handshakes := some ⟨s.server.sessions, ⟨sender.ip, port⟩, .streaming, c.now⟩ :: s.handshakes } := by
  have stored := (Server.sound_kept backend key).store .control (bytes.take receiveLength) sound
  have kept := (Server.sound_kept backend key).opened .control (bytes.take receiveLength) stored
  obtain ⟨t, read⟩ : ∃ t, t = (s.server.store .control (bytes.take receiveLength)).opened .control
    (bytes.take receiveLength) := ⟨_, rfl⟩
  have first : Server.Frame s.server t := by
    rw [read]
    exact (Server.Frame.store s.server .control _).trans (.opened ..)
  have same : t.sessions = s.server.sessions ∧ t.pairing = s.server.pairing := by
    rw [read]
    simp only [Server.opened, Server.store, Server.setWorker_sessions, Server.setWorker_pairing, and_self]
  obtain ⟨sessions, pairing⟩ := same
  rw [← first.format, ← pairing] at prepared
  rw [← first.commandPort] at answers
  have ends : Handshake.Ends backend c request port sender t _ :=
    .paired prepared answers sent connected started
  rw [← read] at kept
  have turned := turn_of_ends sound receiving running asks (read ▸ ends) rfl
  have sounds := (Server.sound_kept backend key).handshake ends kept
  have frame := first.trans (Handshake.frame_of_ends ends)
  refine ⟨_, sounds, frame.running.trans running, frame.closed, frame.format, frame.commandPort, rfl, ?_⟩
  rw [turned, ← read, ← sessions]
  rfl

theorem closing_of_unsent (sender : SocketAddress) (sound : s.server.Sound key) (opened : s.phase = .opened)
    (control : s.stage .control = .receiving) (command : s.stage .command = .receiving)
    (running : s.server.running = true) (unclosed : s.server.closed = false)
    (asks : Handshake.requestIn key.block (bytes.take receiveLength) = .ok (request, port))
    (prepared : backend.prepare s.server.format (backend.stop s.server.pairing.device) = .ok () device)
    (answers : Handshake.answer request (backend.advertised device) s.server.commandPort = .ok settings)
    {e : OsError} (lost : c.reply = some e) :
    let t := s.run backend (turn .control c (.datagram bytes sender) ++ closing sender)
    t.phase = .closed ∧ t.session = none ∧ t.handshakes = none :: s.handshakes := by
  intro t
  let after := put .control .receiving { s with
    server := ((((s.server.store .control (bytes.take receiveLength)).opened .control
      (bytes.take receiveLength)).unpaired device).sealing .control)
    handshakes := none :: s.handshakes }
  have failed : s.run backend (turn .control c (.datagram bytes sender)) = after :=
    turn_of_ends sound control running asks (.unsent prepared answers lost) rfl
  obtain ⟨-, closed, shows, handshakes⟩ :=
    closing_alone backend (s := after) opened (put_stage_self ..)
      ((put_stage_other (by decide) ..).trans command) unclosed sender
  have whole : t = after.run backend (closing sender) := by
    rw [← failed]
    exact run_append ..
  rw [whole]
  refine ⟨closed, ?_, handshakes⟩
  rw [shows, Server.shutdown]
  split <;> rfl

theorem closing_rests (backend : Device σ) {s : System σ} (opened : s.phase = .opened)
    (control : s.stage .control = .receiving) (command : s.stage .command = .receiving)
    (unclosed : s.server.closed = false) (sender : SocketAddress) :
    let halted := s.step backend .shutdown
    let closed := halted.run backend (closing sender).tail
    (halted.phase = .halted ∧ (halted.step backend .shutdown).pending = 0) ∧
      closed.phase = .closed ∧ closed.handshakes = halted.handshakes := by
  intro halted closed
  obtain ⟨-, ended, -, kept⟩ := closing_alone backend opened control command unclosed sender
  have stopped : halted = { s with
      server := s.server.halt backend
      phase := .halted
      final := (s.server.halt backend).session } := by
    simp only [halted, step, shutdown, opened]
  have whole : s.run backend (closing sender) = closed :=
    run_cons backend s .shutdown (closing sender).tail
  rw [whole] at ended kept
  rw [stopped]
  refine ⟨⟨rfl, ?_⟩, ended, kept⟩
  simp only [step, shutdown, pending, control]
  rfl

end Schedules

def lastMade (s : System σ) : Option Session := (s.handshakes.filterMap id).head?

section StandardTone

def readyTone : Tone :=
  { Tone.standard with
    format := some .standard
    period := Audio.framesPerPeriod 48000 Tone.periodLength
    listener := some Server.audioListener }

def preparing : Calls := [(.stop, true), (.prepare .standard, true)]

theorem answer_readyTone (calls : Calls) :
    Handshake.answer (.request 9000) (Tone.device.recorded.advertised ⟨readyTone, calls⟩) 5541 =
      .ok ⟨9000, 0, 16, 2, 48000, 480, 5541⟩ := by
  rfl

theorem turn_of_standard_tone (sender : SocketAddress) :
    let server := Standard.server Tone.device.recorded ⟨.standard, []⟩
    let asking := Arrival.datagram Standard.request sender
    ∃ after : Server (Watched Tone Calls), after.Sound Standard.key ∧ after.running = true ∧
      after.closed = false ∧ after.commandPort = 5541 ∧
      Tone.device.recorded.prepare after.format (Tone.device.recorded.stop after.pairing.device) =
        .ok () ⟨readyTone, preparing ++ (.start, true) :: preparing⟩ ∧
      run Tone.device.recorded { server } (turn .control {} asking) = put .control .receiving {
        server := after
        handshakes := [some ⟨0, ⟨sender.ip, 9000⟩, .streaming, 0⟩] } := by
  intro server asking
  have prepared : Tone.device.recorded.prepare server.format
      (Tone.device.recorded.stop server.pairing.device) = .ok () ⟨readyTone, preparing⟩ := rfl
  obtain ⟨after, sound, running, closed, format, offered, left, turned⟩ :=
    turn_of_paired (s := { server }) (c := {}) sender (.initial ..) rfl rfl
      Standard.requestIn_received prepared (answer_readyTone _) rfl rfl rfl
  refine ⟨after, sound, running, closed, offered, ?_, turned⟩
  rw [format, left]
  rfl

/-- A client pairs with the standard tone, and then the server is shut down. -/
theorem shutdown_final_standard_tone :
    let backend := Tone.device.recorded
    let server := Standard.server backend ⟨.standard, []⟩
    let sender := Standard.client
    let asking := Arrival.datagram Standard.request sender
    let paired := run backend { server } (turn .control {} asking)
    let halted := paired.step backend .shutdown
    let closed := halted.run backend (closing sender).tail
    let cleared := halted.step backend .shutdown
    Server.start backend Standard.config ⟨.standard, []⟩ 5541 (.seeded default) {} = .ok server ∧
      (paired.phase = .opened ∧ closed.handshakes = halted.handshakes ∧ closed.phase = .closed ∧
        Quiet halted.server closed.server ∧ closed.session = closed.latest.map Session.halt) ∧
      halted.phase = .halted ∧ cleared.pending = 0 ∧
        (cleared.run backend (closing sender)).handshakes = cleared.handshakes := by
  intro backend server sender asking
  have begun : Server.start backend Standard.config ⟨.standard, []⟩ 5541 (.seeded default) {} =
      .ok server := Standard.start ..
  have final := (shutdown_final begun (turn .control {} asking)).1
  have late := (shutdown_final begun (turn .control {} asking ++ [.shutdown])).2
  have rests : let paired := run backend { server } (turn .control {} asking)
      paired.phase = .opened ∧ paired.stage .control = .receiving ∧
        paired.stage .command = .receiving ∧ paired.server.closed = false := by
    obtain ⟨after, -, -, unclosed, -, -, turned⟩ := turn_of_standard_tone sender
    rw [turned]
    exact ⟨rfl, put_stage_self .., put_stage_other (by decide) .., unclosed⟩
  -- From here on the run is any run: to compute it would be to seal the packet.
  rw [run_append] at late
  generalize run backend { server } (turn .control {} asking) = paired at final late rests ⊢
  obtain ⟨opened, control, command, unclosed⟩ := rests
  obtain ⟨⟨phase, calm⟩, ended, same⟩ := closing_rests backend opened control command unclosed sender
  obtain ⟨quiet, shows⟩ := final opened _ same
  obtain ⟨-, none⟩ := late phase (closing sender)
  exact ⟨begun, ⟨opened, same, ended, quiet, shows ended⟩, phase, calm, (none calm).1⟩

/-- A shutdown is not final in every sense. A handshake that had passed its test makes a session after
the stop; and after a handshake that failed, the session that it ended is not shown. -/
theorem session_made_late_and_session_not_shown :
    let backend := Tone.device.recorded
    let server := Standard.server backend ⟨.standard, []⟩
    let sender := Standard.client
    let asking := Arrival.datagram Standard.request sender
    let halted := run backend { server } [.arrive .control {} asking, .work .control, .shutdown]
    let closed := run backend { server } (turn .control {} asking ++
      (turn .control { reply := some ⟨101⟩ } asking ++ closing sender))
    Server.start backend Standard.config ⟨.standard, []⟩ 5541 (.seeded default) {} = .ok server ∧
      ¬ Quiet halted.server (halted.step backend (.work .control)).server ∧
      closed.phase = .closed ∧ closed.session ≠ closed.lastMade.map Session.halt := by
  intro backend server sender asking halted closed
  refine ⟨Standard.start .., ?_, ?_⟩
  · have prepared : backend.prepare server.format (backend.stop (backend.stop server.pairing.device)) =
        .ok () ⟨readyTone, (.stop, true) :: preparing⟩ := rfl
    have late : (halted.step backend (.work .control)).server.sessions = halted.server.sessions + 1 :=
      sessions_of_late (.initial ..) rfl rfl rfl Standard.requestIn_received prepared
        (answer_readyTone _) rfl rfl rfl
    intro quiet
    exact Nat.succ_ne_self _ (late.symm.trans quiet.sessions)
  · obtain ⟨after, sound, running, unclosed, offered, prepared, first⟩ :=
      turn_of_standard_tone sender
    let paired : System (Watched Tone Calls) := put .control .receiving {
      server := after
      handshakes := [some ⟨0, ⟨sender.ip, 9000⟩, .streaming, 0⟩] }
    have answers : Handshake.answer (.request 9000)
        (backend.advertised ⟨readyTone, preparing ++ (.start, true) :: preparing⟩) after.commandPort =
          .ok ⟨9000, 0, 16, 2, 48000, 480, 5541⟩ := by
      rw [offered]
      exact answer_readyTone _
    obtain ⟨ended, shows, handshakes⟩ :=
      closing_of_unsent (s := paired) (c := { reply := some ⟨101⟩ }) sender sound rfl (put_stage_self ..)
        (put_stage_other (by decide) ..) running unclosed
        Standard.requestIn_received prepared answers rfl
    have first : run backend { server } (turn .control {} asking) = paired := first
    have whole : closed = paired.run backend
        (turn .control { reply := some ⟨101⟩ } asking ++ closing sender) := by
      rw [← first]
      exact run_append ..
    rw [whole, lastMade, handshakes, shows]
    exact ⟨ended, nofun⟩

end StandardTone

end System

end PairedAudio.Closing
