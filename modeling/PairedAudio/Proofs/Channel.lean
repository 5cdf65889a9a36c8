import Mathlib.Data.List.Induction
import PairedAudio.Proofs.Dispatch
import PairedAudio.Proofs.Run

/-! The law of the command channel: what the commands of a session make of it.

The state of a session is a function of the deeds since it began: the commands carried out, each with
the fate of its acknowledgement. Being stopped absorbs whatever comes later; otherwise the last play
or pause counts. Nothing else about a session changes, and no command makes one.
-/

set_option autoImplicit false

namespace PairedAudio

open Capture (Device Tone)
open Cipher (Block IvSource Key)
open Wire (Command Settings)

variable {σ : Type}

/-- A command that was carried out, and whether its acknowledgement was lost. -/
structure Deed where
  command : Command
  lost : Bool
  deriving DecidableEq, Repr

namespace Deed

def stops (d : Deed) : Bool := d.command == .stop || d.lost

def moves? (d : Deed) : Option SessionState :=
  match d.command with
  | .play => some .streaming
  | .pause => some .paused
  | .ping | .stop => none

def after (state : SessionState) (d : Deed) : SessionState :=
  if d.stops then .stopped
  else if state = .stopped then .stopped
  else d.moves?.getD state

def verdict (deeds : List Deed) : SessionState :=
  if deeds.any stops then .stopped else (deeds.filterMap moves?).getLast?.getD .streaming

theorem moves?_ne_stopped (d : Deed) : d.moves? ≠ some .stopped := by
  unfold moves?
  cases d.command <;> decide

theorem verdict_eq_stopped_iff (deeds : List Deed) :
    verdict deeds = .stopped ↔ deeds.any stops = true := by
  unfold verdict
  split
  · rename_i stopped
    exact ⟨fun _ => stopped, fun _ => rfl⟩
  · rename_i unstopped
    refine ⟨fun same => ?_, fun stopped => absurd stopped unstopped⟩
    cases last : (deeds.filterMap moves?).getLast? with
    | none =>
      rw [last] at same
      cases same
    | some state =>
      rw [last, Option.getD_some] at same
      subst same
      obtain ⟨d, -, moved⟩ := List.mem_filterMap.mp (List.mem_of_getLast? last)
      exact absurd moved d.moves?_ne_stopped

theorem verdict_snoc (deeds : List Deed) (d : Deed) :
    verdict (deeds ++ [d]) = after (verdict deeds) d := by
  unfold after
  simp only [verdict_eq_stopped_iff]
  unfold verdict
  -- A session that was stopped before stays stopped; otherwise the new deed is the last.
  cases before : deeds.any stops with
  | true => simp [before]
  | false =>
    cases last : d.stops with
    | true => simp [before, last]
    | false =>
      cases moved : d.moves? with
      | none => simp [before, last, moved]
      | some state => simp [before, last, moved]

theorem foldl_after (deeds : List Deed) : deeds.foldl after .streaming = verdict deeds := by
  -- From the back, since the verdict looks for the last deed that moves the session.
  induction deeds using List.reverseRecOn with
  | nil => rfl
  | append_singleton deeds d ih => rw [List.foldl_append, ih, verdict_snoc, List.foldl_cons, List.foldl_nil]

end Deed

def Deed.ofReport? : Except CodecError Command → Report → Option Deed
  | .ok command, .handled lost => some ⟨command, lost.isSome⟩
  | _, _ => none

theorem Deed.ofReport?_unhandled {asked : Except CodecError Command} {report : Report}
    (unhandled : ∀ lost, report ≠ .handled lost) : ofReport? asked report = none := by
  unfold ofReport?
  split
  · rename_i lost
    exact absurd rfl (unhandled lost)
  · rfl

def Session.afterDeeds (deeds : List Deed) (session : Session) : Session :=
  { session with state := deeds.foldl Deed.after session.state }

namespace Session

theorem map_afterDeeds_nil (session : Option Session) : session.map (afterDeeds []) = session :=
  congrFun Option.map_id session

theorem afterDeeds_append (earlier later : List Deed) (session : Session) :
    session.afterDeeds (earlier ++ later) = (session.afterDeeds earlier).afterDeeds later := by
  simp only [afterDeeds, List.foldl_append]

theorem command_switch (on : Bool) (session : Session) :
    session.command (Control.switched on) = session.afterDeeds [⟨Control.switch on, false⟩] := by
  unfold command
  split
  · rename_i stopped
    cases session
    cases stopped
    cases on <;> rfl
  · rename_i live
    cases on <;> simp [afterDeeds, Deed.after, Deed.stops, Deed.moves?, Control.switch,
      Control.switched, live]

theorem command_stop (session : Session) :
    session.command .stopped = session.afterDeeds [⟨.stop, false⟩] := by
  unfold command
  split
  · rename_i stopped
    cases session
    cases stopped
    rfl
  · rfl

theorem afterDeeds_ping (session : Session) : session.afterDeeds [⟨.ping, false⟩] = session := by
  cases session with
  | mk id client state startedAt => cases state <;> rfl

theorem afterDeeds_lost (command : Command) (session : Session) :
    session.afterDeeds [⟨command, true⟩] = session.halt := by
  cases command <;> rfl

theorem halt_afterDeeds (deeds : List Deed) (session : Session) :
    (session.afterDeeds deeds).halt = session.halt := rfl

end Session

/-- Neither a shutdown nor a handshake whose request decodes. -/
def Event.Spares (key : Block) : Event → Prop
  | .arrival .control _ (.datagram bytes _) =>
    ∃ e, Handshake.requestIn key (bytes.take receiveLength) = .error e
  | .arrival .control _ (.failure _) | .arrival .command _ _ | .chunk _ _ => True
  | .shutdown => False

namespace Server

variable {backend : Device σ} {key : Key} {s s' : Server σ}

def deed? (backend : Device σ) (s : Server σ) : Event → Option Deed
  | .arrival .command c (.datagram bytes sender) =>
    Deed.ofReport? (Control.commandIn s.key.block (bytes.take receiveLength))
      (s.receive backend .command c (.datagram bytes sender)).1
  | _ => none

def deeds (backend : Device σ) (s : Server σ) : List Event → List Deed
  | [] => []
  | event :: rest => (s.deed? backend event).toList ++ (s.step backend event).deeds backend rest

theorem session_of_carried {command : Command}
    (carried : Control.Carried backend s command (.ok () s')) :
    s'.session = s.session.map (Session.afterDeeds [⟨command, false⟩]) := by
  cases carried with
  | pinged =>
    rw [show Session.afterDeeds [⟨.ping, false⟩] = id from funext Session.afterDeeds_ping, Option.map_id]
    rfl
  | switched set =>
    rw [← funext (Session.command_switch _)]
    rfl
  | stopped =>
    rw [← funext Session.command_stop]
    rfl

/-- Either a worker handles what arrives, or the arrival changes nothing that is not the worker's own. -/
theorem receive_cases (backend : Device σ) (s : Server σ) (w : Worker) (c : Circumstances)
    (arrival : Arrival) :
    ((s.receive backend w c arrival).2.pairing = s.pairing ∧
      ∀ lost, (s.receive backend w c arrival).1 ≠ .handled lost) ∨
    ∃ bytes sender, arrival = .datagram bytes sender ∧ s.running = true ∧ (s.worker w).ended = false := by
  cases awake : (s.worker w).ended with
  | true =>
    have idle : s.receive backend w c arrival = (.ended, s) := by
      unfold receive
      rw [if_pos awake]
    rw [idle]
    exact .inl ⟨rfl, fun _ same => by cases same⟩
  | false =>
    cases arrival with
    | failure e =>
      refine .inl ⟨?_, ?_⟩
      · rw [receive_failure awake]
        split
        · rfl
        · exact setWorker_pairing ..
      · unfold receive
        simp only [awake, Bool.false_eq_true, if_false]
        split <;> exact fun _ same => by cases same
    | datagram bytes sender =>
      cases running : s.running with
      | true => exact .inr ⟨bytes, sender, rfl, rfl, rfl⟩
      | false =>
        refine .inl ⟨?_, ?_⟩
        · rw [receive_datagram_exiting running awake, endWorker, store]
          simp only [setWorker_pairing]
        · have still : (s.store w (bytes.take receiveLength)).running = false := by
            rw [store, setWorker_running, running]
          unfold receive
          simp only [awake, still, Bool.false_eq_true, if_false, Bool.not_false, if_true]
          exact fun _ same => by cases same

theorem deed?_of_unhandled {w : Worker} {c : Circumstances} {arrival : Arrival}
    (unhandled : ∀ lost, (s.receive backend w c arrival).1 ≠ .handled lost) :
    s.deed? backend (.arrival w c arrival) = none := by
  cases w with
  | control => rfl
  | command =>
    cases arrival with
    | failure e => rfl
    | datagram bytes sender => exact Deed.ofReport?_unhandled unhandled

theorem store_session (w : Worker) (bytes : List UInt8) (s : Server σ) :
    (s.store w bytes).session = s.session := congrArg Pairing.session (setWorker_pairing ..)

theorem opened_session (w : Worker) (packet : List UInt8) (s : Server σ) :
    (s.opened w packet).session = s.session := congrArg Pairing.session (setWorker_pairing ..)

theorem session_of_command {c : Circumstances} {command : Command} {sender : SocketAddress}
    {r : EStateM.Result HandlerFault (Server σ) (Option OsError)}
    (ends : Control.Ends backend c command sender s r) :
    (Handler.after r).session =
      s.session.map (Session.afterDeeds (Deed.ofReport? (.ok command) (.ofResult r)).toList) := by
  have still := (Session.map_afterDeeds_nil s.session).symm
  cases ends with
  | failed carried =>
    cases carried with
    | @unswitched playing fault device failed =>
      cases fault <;> exact still
  | acknowledged carried sent =>
    change (Server.answered ..).session = _
    rw [session, answered_pairing]
    exact session_of_carried carried
  | @silenced s' e carried lost =>
    -- The stop after a lost acknowledgement hides what the command did.
    have halted : Session.halt ∘ Session.afterDeeds [⟨command, false⟩] =
        Session.afterDeeds [⟨command, true⟩] := funext fun session =>
      (session.halt_afterDeeds _).trans (session.afterDeeds_lost command).symm
    have moved : (s'.sealing .command).session = s.session.map (Session.afterDeeds [⟨command, false⟩]) :=
      (congrArg Pairing.session (sealing_pairing ..)).trans (session_of_carried carried)
    change (s'.sealing .command).session.map Session.halt = _
    rw [moved, Option.map_map, halted]
    rfl

theorem session_step (backend : Device σ) (sound : s.Sound key) {event : Event} (spares : event.Spares key.block) :
    (s.step backend event).session =
      s.session.map (Session.afterDeeds (s.deed? backend event).toList) := by
  have still := (Session.map_afterDeeds_nil s.session).symm
  cases event with
  | shutdown => exact spares.elim
  | chunk send bytes =>
    obtain ⟨audio, ivs, datagrams, -, frame⟩ := emit_frame send bytes s
    rw [step, frame]
    exact still
  | arrival w c arrival =>
    rcases receive_cases backend s w c arrival with ⟨same, unhandled⟩ | ⟨bytes, sender, rfl, running, awake⟩
    · rw [deed?_of_unhandled unhandled, step, session, same]
      exact still
    · cases w with
      | control =>
        obtain ⟨e, unread⟩ := spares
        have keyed : (s.store .control (bytes.take receiveLength)).control.framer.codec.key = key.block :=
          ((sound_kept backend key).store .control _ sound).control
        rw [step, receive_datagram running awake, settle_session, after_handle_control,
          Handshake.handle_unread (keyed ▸ unread), Handler.after, opened_session, store_session]
        exact still
      | command =>
        have stored := (sound_kept backend key).store .command (bytes.take receiveLength) sound
        have turn := receive_running backend running awake c bytes sender
        rw [step, deed?, turn, settle_session, sound.held]
        cases asked : Control.commandIn key.block (bytes.take receiveLength) with
        | error e =>
          rw [handle, Control.handle_unread (stored.command ▸ asked), Handler.after, opened_session,
            store_session]
          exact still
        | ok command =>
          have ends : Control.Ends backend c command sender _ (Control.handle backend c _ sender _) :=
            Control.handle_ends (stored.command ▸ asked)
          have moved := session_of_command ends
          rw [opened_session, store_session] at moved
          rw [handle, moved]

theorem session_run (backend : Device σ) (sound : s.Sound key) (events : List Event)
    (spared : ∀ event ∈ events, event.Spares key.block) :
    (s.run backend events).session = s.session.map (Session.afterDeeds (s.deeds backend events)) := by
  -- Over the events, for every sound server: the deeds of the rest follow those of the first.
  induction events generalizing s with
  | nil => exact (Session.map_afterDeeds_nil s.session).symm
  | cons event rest ih =>
    have moved := session_step backend sound (spared event List.mem_cons_self)
    have later := ih ((sound_kept backend key).step event sound)
      fun event present => spared event (List.mem_cons_of_mem _ present)
    rw [run, later, moved, deeds, Option.map_map]
    congr 1
    funext session
    exact (session.afterDeeds_append _ _).symm

theorem session_of_paired {c : Circumstances} {arrival : Arrival} {lost : Option OsError}
    (paired : (s.receive backend .control c arrival).1 = .handled lost) :
    ∃ session, (s.receive backend .control c arrival).2.session = some session ∧
      session.state = .streaming := by
  rcases receive_cases backend s .control c arrival with ⟨-, unhandled⟩ | ⟨bytes, sender, rfl, running, awake⟩
  · exact absurd paired (unhandled lost)
  rw [receive_running backend running awake] at paired ⊢
  generalize s.store .control (bytes.take receiveLength) = stored at paired ⊢
  simp only [settle_session, after_handle_control]
  simp only [handle, bind, EStateM.bind, pure, EStateM.pure] at paired
  cases asked : Handshake.requestIn stored.control.framer.codec.key (bytes.take receiveLength) with
  | error e =>
    rw [Handshake.handle_unread asked] at paired
    cases paired
  | ok found =>
    rw [Handshake.handle_read asked] at paired ⊢
    have ends := Handshake.pair_ends backend c found.1 found.2 sender
      (stored.opened .control (bytes.take receiveLength))
    generalize Handshake.pair backend c found.1 found.2 sender _ = r at ends paired ⊢
    -- Every other exit is an error, and is reported as one.
    cases ends with
    | @unprepared fault => cases fault <;> cases paired
    | @unstarted _ _ _ fault => cases fault <;> cases paired
    | unanswerable | unsent | unconnected => cases paired
    | paired => exact ⟨_, rfl, rfl⟩

/-- A command has been carried out, and then the network was asked, once, to take its acknowledgement
to where the command came from. What the network made of it ends nothing. -/
structure Acknowledged (backend : Device σ) (key : Key) (command : Command) (c : Circumstances)
    (bytes : List UInt8) (sender : SocketAddress) (s carried : Server σ) (ack : List UInt8) :
    Prop where
  effect : Control.carryOut backend command
    ((s.store .command (bytes.take receiveLength)).opened .command (bytes.take receiveLength)) =
      .ok () carried
  asked (network : Network σ) :
    Control.dispatch backend network (bytes.take receiveLength) sender
      (s.store .command (bytes.take receiveLength)) =
        network ⟨sender, ack⟩ (carried.sealing .command)
  echoes : ∃ plain, Framer.decode ack (.ofKey key) = .ok plain (.ofKey key) ∧
    Command.decode plain = .ok command
  turn : s.receive backend .command c (.datagram bytes sender) =
    (.handled c.ack, Handler.after
      ((Control.dispatch backend c.network (bytes.take receiveLength) sender >>=
        Control.conclude backend) (s.store .command (bytes.take receiveLength))))
  sent : (s.receive backend .command c (.datagram bytes sender)).2.sent =
    s.sent ++ if c.ack = none then [⟨sender, ack⟩] else []
  awake : ((s.receive backend .command c (.datagram bytes sender)).2.worker .command).ended = false
  running : (s.receive backend .command c (.datagram bytes sender)).2.running = true

theorem frame_of_carried {command : Command}
    (carried : Control.Carried backend s command (.ok () s')) :
    s'.sent = s.sent ∧ s'.running = s.running ∧ s'.command = s.command := by
  cases carried <;> exact ⟨rfl, rfl, rfl⟩

theorem acknowledged_of_carried (sound : s.Sound key) (running : s.running = true)
    (awake : (s.worker .command).ended = false) (c : Circumstances) {bytes : List UInt8}
    (sender : SocketAddress) {command : Command} {carried : Server σ}
    (asked : Control.commandIn key.block (bytes.take receiveLength) = .ok command)
    (effect : Control.carryOut backend command
      ((s.store .command (bytes.take receiveLength)).opened .command (bytes.take receiveLength)) =
        .ok () carried) :
    s.Acknowledged backend key command c bytes sender carried
      (carried.packetFor .command command.encode) := by
  have stored := (sound_kept backend key).store .command (bytes.take receiveLength) sound
  have asked : Control.commandIn
      (s.store .command (bytes.take receiveLength)).command.framer.codec.key
      (bytes.take receiveLength) = .ok command := stored.command ▸ asked
  have carrying := Control.carryOut_carried backend command
    ((s.store .command (bytes.take receiveLength)).opened .command (bytes.take receiveLength))
  rw [effect] at carrying
  have keyed : (carried.worker .command).framer.codec.key = key.block :=
    (((sound_kept backend key).opened .command _ stored).carried carrying).command
  have opens : Framer.payload key.block (carried.packetFor .command command.encode) =
      .ok command.encode := by
    rw [packetFor, keyed]
    exact Framer.payload_sealed ..
  obtain ⟨sent, runs, worker⟩ := frame_of_carried carrying
  have sent : carried.sent = s.sent :=
    sent.trans ((opened_sent ..).trans (setWorker_sent ..))
  have runs : carried.running = true :=
    runs.trans ((setWorker_running ..).trans ((setWorker_running ..).trans running))
  have wakes : carried.command.ended = false := by
    rw [worker]
    exact awake
  have turn := receive_running backend running awake c bytes sender
  have handled : Control.handle backend c (bytes.take receiveLength) sender
      (s.store .command (bytes.take receiveLength)) = _ := Control.handle_carried asked effect
  refine ⟨effect, fun _ => Control.dispatch_carried asked effect,
    ⟨_, Framer.decode_of_payload opens, command.decode_encode⟩, ?_, ?_, ?_, ?_⟩
  · rw [turn, handle, ← Control.handle_eq_dispatch, handled]
    cases c.ack <;> rfl
  · rw [turn, handle, handled]
    cases c.ack with
    | none =>
      change (carried.answered .command sender command.encode).sent = _
      rw [answered_sent, sent]
      rfl
    | some e =>
      change (carried.sealing .command).sent = _
      rw [sealing_sent, sent]
      simp
  · rw [turn, handle, handled]
    cases c.ack <;> exact wakes
  · rw [turn, handle, handled]
    cases c.ack <;> exact runs

/-- The law of the command channel. Between a handshake that succeeds and the next that can be read,
or a shutdown, the session is stopped if a stop was carried out or an acknowledgement was lost, and
otherwise plays or pauses as it was told last; nothing else about it changes. Without a session there
is none after a command. Every command that can be read is carried out and then acknowledged, unless
the backend fails to switch the playing. -/
theorem channel_law {config : Config} {device : σ} {commandPort : UInt16} {ivs : IvSource}
    {setup : Setup} (begun : start backend config device commandPort ivs setup = .ok s)
    (earlier : List Event) (c : Circumstances) (request : Arrival)
    (paired : ((s.run backend earlier).receive backend .control c request).1 = .handled none)
    (events : List Event) (spared : ∀ event ∈ events, event.Spares s.key.block) :
    let first := (s.run backend earlier).step backend (.arrival .control c request)
    (∃ session, first.session = some session ∧
      (first.run backend events).session =
        some { session with state := Deed.verdict (first.deeds backend events) }) ∧
    (∀ (others : List Event) (c : Circumstances) (arrival : Arrival),
      (s.run backend others).session = none →
        ((s.run backend others).step backend (.arrival .command c arrival)).session = none) ∧
    (∀ (others : List Event) (c : Circumstances) (bytes : List UInt8) (sender : SocketAddress)
        (command : Command), (s.run backend others).running = true →
      (s.run backend others).command.ended = false →
      Control.commandIn s.key.block (bytes.take receiveLength) = .ok command →
      (∃ carried ack,
        (s.run backend others).Acknowledged backend s.key command c bytes sender carried ack) ∨
      ∃ playing fault left, command = Control.switch playing ∧
        backend.setPlaying playing (s.run backend others).pairing.device = .error fault left) := by
  have sound (others : List Event) : (s.run backend others).Sound s.key :=
    (sound_kept backend s.key).run others (sound_of_start begun)
  refine ⟨?_, ?_, ?_⟩
  · obtain ⟨session, present, streaming⟩ := session_of_paired paired
    have later := session_run backend
      ((sound_kept backend s.key).step (.arrival .control c request) (sound earlier)) events spared
    refine ⟨session, present, ?_⟩
    rw [later, step, present, Option.map_some, Session.afterDeeds, streaming, Deed.foldl_after]
  · intro others c arrival absent
    have moved : ((s.run backend others).step backend (.arrival .command c arrival)).session = _ :=
      session_step backend (sound others) trivial
    rw [moved, absent]
    rfl
  · intro others c bytes sender command running awake asked
    have carrying := Control.carryOut_carried backend command
      (((s.run backend others).store .command (bytes.take receiveLength)).opened .command
        (bytes.take receiveLength))
    cases effect : Control.carryOut backend command _ with
    | ok done carried =>
      exact .inl ⟨carried, _, acknowledged_of_carried (sound others) running awake c sender asked effect⟩
    | error fault left =>
      rw [effect] at carrying
      cases carrying with
      | @unswitched playing fault left failed =>
        rw [opened_pairing, store, setWorker_pairing] at failed
        exact .inr ⟨playing, fault, left, rfl, failed⟩

/-- A client pairs with the standard tone, pauses it, loses the next acknowledgement, and plays. -/
theorem channel_law_standard_tone :
    let server := Standard.server Tone.device .standard
    let request : Arrival := .datagram Standard.request Standard.client
    let telling (c : Circumstances) (command : Command) : Event := .arrival .command c
      (.datagram (Framer.sealed Standard.key.block default command.encode) Standard.client)
    let events := [telling {} .pause, telling { ack := some ⟨101⟩ } .ping, telling {} .play]
    let first := server.step Tone.device (.arrival .control {} request)
    start Tone.device Standard.config .standard 5541 (.seeded default) {} = .ok server ∧
      (server.receive Tone.device .control {} request).1 = .handled none ∧
      (∀ event ∈ events, event.Spares server.key.block) ∧
      (∃ session, first.session = some session ∧
        (first.run Tone.device events).session =
          some { session with state := Deed.verdict (first.deeds Tone.device events) }) := by
  intro server request telling events first
  have begun : start Tone.device Standard.config .standard 5541 (.seeded default) {} = .ok server :=
    Standard.start ..
  let ready : Tone := { Tone.standard with
    format := some .standard
    period := Audio.framesPerPeriod 48000 Tone.periodLength
    listener := some audioListener }
  have prepared : Tone.device.prepare server.format (Tone.device.stop server.pairing.device) =
      .ok () ready := rfl
  have answers : Handshake.answer (.request 9000) (Tone.device.advertised ready) 5541 =
      .ok ⟨9000, 0, 16, 2, 48000, 480, 5541⟩ := rfl
  have paired : (server.receive Tone.device .control {} request).1 = .handled none :=
    (receive_of_started (.initial ..) rfl rfl Standard.client Standard.requestIn_received prepared
      answers rfl rfl rfl).1
  have spared (event : Event) (present : event ∈ events) : event.Spares server.key.block := by
    simp only [events, telling, List.mem_cons, List.not_mem_nil, or_false] at present
    rcases present with rfl | rfl | rfl <;> trivial
  exact ⟨begun, paired, spared, (channel_law begun [] {} request paired events spared).1⟩

end Server

end PairedAudio
