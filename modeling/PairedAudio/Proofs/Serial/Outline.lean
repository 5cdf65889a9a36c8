import PairedAudio.Proofs.Courses
import PairedAudio.Proofs.Dispatch

/-! What the handlers do to a server in outline.

The outline of a server is its session, its destination and what its backend shows. If the calls into
the backend end in a fixed way, each handler changes the outline by a function of it: a request ends
the session and stops the capture first, and so forgets everything else that commands did, and so
does the stop after a lost acknowledgement.
-/

set_option autoImplicit false

namespace PairedAudio.Serial

open Audio (Format framesPerPeriod)
open Capture (Advertised Device Fault Status Tone)
open Cipher (Block)
open Wire (Command Settings)

variable {σ : Type}

/-- How the calls of a handler into the backend end, and what the backend advertises. -/
structure Outcomes where
  prepare : Option Fault := none
  advertised : Advertised
  start : Option Fault := none
  setPlaying : Option Fault := none

def faultOf : EStateM.Result Fault σ Unit → Option Fault
  | .ok _ _ => none
  | .error fault _ => some fault

/-- A backend whose calls end in this way, whatever was done to it before they are made. -/
structure Follows (format : Format) (backend : Device σ) (o : Outcomes) : Prop where
  prepare (d : σ) : faultOf (backend.prepare format (backend.stop d)) = o.prepare
  advertised {d d' : σ} : backend.prepare format (backend.stop d) = .ok () d' →
    backend.advertised d' = o.advertised
  start {d d' : σ} : backend.prepare format (backend.stop d) = .ok () d' →
    faultOf (backend.start d') = o.start
  setPlaying (on : Bool) (d : σ) : faultOf (backend.setPlaying on d) = o.setPlaying

theorem follows_tone {format : Format} (valid : format.validate = .ok ()) :
    Follows format Tone.device
      { advertised := ⟨format.encoding, format.bits, Tone.channels, format.rate,
          framesPerPeriod format.rate Tone.periodLength⟩ } where
  prepare d := by
    rw [Tone.prepare_eq, valid]
    rfl
  advertised prepared := by
    rw [Tone.prepare_eq, valid] at prepared
    cases prepared
    rfl
  start prepared := by
    rw [Tone.prepare_eq, valid] at prepared
    cases prepared
    rfl
  setPlaying on d := rfl

structure Gauge (σ : Type) where
  capturing : σ → Bool
  playing : σ → Bool

def gaugeOf {backend : Device σ} (status : Status backend) : Gauge σ :=
  ⟨status.capturing, status.playing⟩

/-- A datagram, with all that comes from outside while it is handled. -/
structure Incoming (gauge : Gauge σ) (format : Format) where
  backend : Device σ
  status : Status backend
  gauged : gaugeOf status = gauge
  outcomes : Outcomes
  follows : Follows format backend outcomes
  circumstances : Circumstances := {}
  packet : List UInt8
  sender : SocketAddress

/-- A server as far as its clients can tell. -/
structure Outline where
  session : Option Session
  sessions : Nat
  destination : Option SocketAddress
  capturing : Bool
  /-- Only a backend that captures plays. -/
  playing : Bool
  deriving DecidableEq

def outline (gauge : Gauge σ) (s : Server σ) : Outline where
  session := s.session
  sessions := s.sessions
  destination := s.pairing.destination
  capturing := gauge.capturing s.pairing.device
  playing := gauge.capturing s.pairing.device && gauge.playing s.pairing.device

namespace Outline

def quiet (v : Outline) : Outline := { v with capturing := false, playing := false }

def cleared (v : Outline) : Outline := { v.quiet with session := none }

def silenced (v : Outline) : Outline := { v.quiet with session := v.session.map Session.halt }

def begun (client : SocketAddress) (now : Nat) (v : Outline) : Outline where
  session := some ⟨v.sessions, client, .streaming, now⟩
  sessions := v.sessions + 1
  destination := some client
  capturing := true
  playing := true

def switched (on : Bool) (v : Outline) : Outline :=
  { v with session := v.session.map (Session.command (Control.switched on)),
           playing := v.capturing && on }

def stopped (v : Outline) : Outline :=
  { v.quiet with session := v.session.map (Session.command .stopped) }

end Outline

namespace Incoming

variable {gauge : Gauge σ} {format : Format} (i : Incoming gauge format)

def reachesStart : Bool :=
  i.outcomes.prepare.isNone && decide (i.outcomes.advertised.rate.toNat ≤ largestField) &&
    decide (i.outcomes.advertised.period.toNat ≤ largestField) &&
    i.circumstances.reply.isNone && i.circumstances.connect.isNone

def pairs (client : SocketAddress) (v : Outline) : Outline :=
  if i.reachesStart then
    if i.outcomes.start.isNone then v.begun client i.circumstances.now
    else { v.cleared with destination := some client }
  else v.cleared

def handshake (key : Block) (v : Outline) : Outline :=
  match Handshake.requestIn key i.packet with
  | .ok (_, port) => i.pairs ⟨i.sender.ip, port⟩ v
  | .error _ => v

def switch (on : Bool) (v : Outline) : Outline :=
  if i.outcomes.setPlaying.isNone then v.switched on else v

def carries (v : Outline) : Command → Outline
  | .ping => v
  | .play => i.switch true v
  | .pause => i.switch false v
  | .stop => v.stopped

def dispatch (key : Block) (v : Outline) : Outline :=
  match Control.commandIn key i.packet with
  | .ok command => i.carries v command
  | .error _ => v

def completes : Command → Bool
  | .ping | .stop => true
  | .play | .pause => i.outcomes.setPlaying.isNone

def loses (key : Block) : Bool :=
  match Control.commandIn key i.packet with
  | .ok command => i.completes command && i.circumstances.ack.isSome
  | .error _ => false

theorem loses_of_asked {key : Block} {command : Command}
    (asked : Control.commandIn key i.packet = .ok command) :
    i.loses key = (i.completes command && i.circumstances.ack.isSome) := by
  unfold loses
  rw [asked]

section Backend

theorem outcome_ok {operation : EStateM Fault σ Unit} {outcome : Option Fault} {d d' : σ}
    (done : operation d = .ok () d') (ends : faultOf (operation d) = outcome) : outcome = none := by
  rw [← ends, done]
  rfl

theorem outcome_error {operation : EStateM Fault σ Unit} {outcome : Option Fault} {fault : Fault}
    {d d' : σ} (failed : operation d = .error fault d') (ends : faultOf (operation d) = outcome) :
    outcome = some fault := by
  rw [← ends, failed]
  rfl

variable {d d' d'' : σ} {fault : Fault}

theorem capturing_of_prepared
    (prepared : i.backend.prepare format (i.backend.stop d) = .ok () d') :
    gauge.capturing d' = false := by
  rw [← i.gauged]
  exact (i.status.prepared prepared).trans (i.status.stopped d)

theorem capturing_of_unprepared
    (prepared : i.backend.prepare format (i.backend.stop d) = .error fault d') :
    gauge.capturing d' = false := by
  rw [← i.gauged]
  exact (i.status.unprepared prepared).trans (i.status.stopped d)

theorem capturing_of_unstarted
    (prepared : i.backend.prepare format (i.backend.stop d) = .ok () d')
    (started : i.backend.start d' = .error fault d'') : gauge.capturing d'' = false := by
  have quiet := i.capturing_of_prepared prepared
  rw [← i.gauged] at quiet ⊢
  exact (i.status.unstarted started).trans quiet

theorem shows_of_started (started : i.backend.start d = .ok () d') :
    gauge.capturing d' = true ∧ gauge.playing d' = true := by
  rw [← i.gauged]
  exact i.status.started started

theorem shows_of_switched {on : Bool} (set : i.backend.setPlaying on d = .ok () d') :
    gauge.capturing d' = gauge.capturing d ∧ gauge.playing d' = on := by
  rw [← i.gauged]
  exact i.status.switched set

theorem shows_of_unswitched {on : Bool} (failed : i.backend.setPlaying on d = .error fault d') :
    gauge.capturing d' = gauge.capturing d ∧ gauge.playing d' = gauge.playing d := by
  rw [← i.gauged]
  exact i.status.unswitched failed

theorem capturing_requestStop (d : σ) : gauge.capturing (i.backend.requestStop d) = false := by
  have same : (gaugeOf i.status).capturing = gauge.capturing := congrArg Gauge.capturing i.gauged
  rw [← same]
  exact i.status.stopRequested d

theorem reachesStart_of_connected {request settings : Settings} {commandPort : UInt16}
    (prepared : i.backend.prepare format (i.backend.stop d) = .ok () d')
    (answers : Handshake.answer request (i.backend.advertised d') commandPort = .ok settings)
    (sent : i.circumstances.reply = none) (connected : i.circumstances.connect = none) :
    i.reachesStart = true := by
  have outcome := outcome_ok prepared (i.follows.prepare _)
  rw [i.follows.advertised prepared] at answers
  have fits : ¬ (largestField < i.outcomes.advertised.rate.toNat ∨
      largestField < i.outcomes.advertised.period.toNat) := by
    intro large
    obtain ⟨e, refused⟩ := (Handshake.answer_error_iff request _ commandPort).mpr large
    cases refused.symm.trans answers
  have rate : i.outcomes.advertised.rate.toNat ≤ largestField := by omega
  have period : i.outcomes.advertised.period.toNat ≤ largestField := by omega
  simp [reachesStart, outcome, rate, period, sent, connected]

end Backend

/-- A backend that does not capture does not show whether it plays. -/
theorem outline_of_quiet {s : Server σ} (quiet : gauge.capturing s.pairing.device = false) :
    outline gauge s = ⟨s.session, s.sessions, s.pairing.destination, false, false⟩ := by
  simp only [outline, quiet, Bool.false_and]

theorem outline_opened (w : Worker) (packet : List UInt8) (s : Server σ) :
    outline gauge (s.opened w packet) = outline gauge s := by
  simp only [outline, Server.session, Server.opened_pairing, Server.opened_sessions]

theorem outline_sealing (w : Worker) (s : Server σ) : outline gauge (s.sealing w) = outline gauge s := by
  cases w <;> rfl

theorem outline_answered (w : Worker) (recipient : SocketAddress) (plain : List UInt8)
    (s : Server σ) : outline gauge (s.answered w recipient plain) = outline gauge s := by
  simp only [outline, Server.session, Server.answered_pairing, Server.answered_sessions]

theorem outline_pair {s : Server σ} (serves : s.format = format) (request : Settings) (port : UInt16) :
    outline gauge (Handler.after
        (Handshake.pair i.backend i.circumstances request port i.sender s)) =
      i.pairs ⟨i.sender.ip, port⟩ (outline gauge s) := by
  subst serves
  have ends := Handshake.pair_ends i.backend i.circumstances request port i.sender s
  generalize Handshake.pair i.backend i.circumstances request port i.sender s = r at ends
  -- What the backend answers is the same for every server, and so is the exit that is taken.
  cases ends with
  | unprepared prepared =>
    have outcome := outcome_error prepared (i.follows.prepare _)
    have stays : i.reachesStart = false := by simp [reachesStart, outcome]
    rw [pairs, stays, Handler.after, outline_of_quiet (i.capturing_of_unprepared prepared)]
    rfl
  | unanswerable prepared refused =>
    have advertised := i.follows.advertised prepared
    have large := (Handshake.answer_error_iff ..).mp ⟨_, refused⟩
    rw [advertised] at large
    have stays : i.reachesStart = false := by
      simp only [reachesStart, Bool.and_eq_false_iff, decide_eq_false_iff_not]
      omega
    rw [pairs, stays, Handler.after, outline_of_quiet (i.capturing_of_prepared prepared)]
    rfl
  | unsent prepared answers lost =>
    have stays : i.reachesStart = false := by simp [reachesStart, lost]
    rw [pairs, stays, Handler.after, outline_of_quiet (i.capturing_of_prepared prepared)]
    rfl
  | unconnected prepared answers sent refused =>
    have stays : i.reachesStart = false := by simp [reachesStart, refused]
    rw [pairs, stays, Handler.after, outline_of_quiet (i.capturing_of_prepared prepared)]
    rfl
  | unstarted prepared answers sent connected started =>
    have outcome := outcome_error started (i.follows.start prepared)
    have reaches := i.reachesStart_of_connected prepared answers sent connected
    rw [pairs, reaches, outcome, Handler.after,
      outline_of_quiet (i.capturing_of_unstarted prepared started)]
    rfl
  | paired prepared answers sent connected started =>
    have outcome := outcome_ok started (i.follows.start prepared)
    have reaches := i.reachesStart_of_connected prepared answers sent connected
    obtain ⟨capturing, playing⟩ := i.shows_of_started started
    rw [pairs, reaches, outcome, Handler.after]
    simp only [outline, Handshake.begin, Server.withDevice_pairing, capturing, playing]
    rfl

theorem completes_switch (on : Bool) :
    i.completes (Control.switch on) = i.outcomes.setPlaying.isNone := by cases on <;> rfl

theorem carries_switch (on : Bool) (v : Outline) :
    i.carries v (Control.switch on) = i.switch on v := by cases on <;> rfl

theorem outline_carryOut (s : Server σ) (command : Command) :
    outline gauge (Handler.after (Control.carryOut i.backend command s)) =
      i.carries (outline gauge s) command := by
  have carrying := Control.carryOut_carried i.backend command s
  generalize Control.carryOut i.backend command s = r at carrying
  cases carrying with
  | pinged => rfl
  | switched set =>
    have outcome := outcome_ok set (i.follows.setPlaying _ _)
    obtain ⟨capturing, playing⟩ := i.shows_of_switched set
    rw [carries_switch, switch, outcome, Handler.after]
    simp only [outline, Control.moveSession, Server.withDevice_pairing, capturing, playing]
    rfl
  | unswitched failed =>
    have outcome := outcome_error failed (i.follows.setPlaying _ _)
    obtain ⟨capturing, playing⟩ := i.shows_of_unswitched failed
    rw [carries_switch, switch, outcome, Handler.after]
    simp only [outline, Server.withDevice_pairing, capturing, playing]
    rfl
  | stopped =>
    rw [Handler.after, outline_of_quiet (i.capturing_requestStop s.pairing.device)]
    rfl

theorem completes_of_carried {s s' : Server σ} {command : Command}
    (carried : Control.carryOut i.backend command s = .ok () s') : i.completes command = true := by
  have carrying := Control.carryOut_carried i.backend command s
  rw [carried] at carrying
  cases carrying with
  | pinged | stopped => rfl
  | switched set =>
    rw [completes_switch, outcome_ok set (i.follows.setPlaying _ _)]
    rfl

theorem completes_of_uncarried {s s' : Server σ} {command : Command} {fault : HandlerFault}
    (uncarried : Control.carryOut i.backend command s = .error fault s') :
    i.completes command = false := by
  have carrying := Control.carryOut_carried i.backend command s
  rw [uncarried] at carrying
  cases carrying with
  | unswitched failed =>
    rw [completes_switch, outcome_error failed (i.follows.setPlaying _ _)]
    rfl

theorem outline_handshake {s : Server σ} (serves : s.format = format) :
    outline gauge (Handler.after
        (Handshake.handle i.backend i.circumstances i.packet i.sender s)) =
      i.handshake s.control.framer.codec.key (outline gauge s) := by
  unfold handshake
  cases asked : Handshake.requestIn s.control.framer.codec.key i.packet with
  | error e =>
    rw [Handshake.handle_unread asked]
    exact outline_opened ..
  | ok found =>
    have serves' : (s.opened .control i.packet).format = format := by rw [Server.opened_format, serves]
    rw [Handshake.handle_read asked, i.outline_pair serves', outline_opened]

theorem outline_dispatch (s : Server σ) :
    let halfway := Control.dispatch i.backend i.circumstances.network i.packet i.sender s
    outline gauge (Handler.after halfway) = i.dispatch s.command.framer.codec.key (outline gauge s) ∧
      Control.isLost halfway = i.loses s.command.framer.codec.key := by
  unfold dispatch loses
  cases asked : Control.commandIn s.command.framer.codec.key i.packet with
  | error e =>
    rw [Control.dispatch_unread asked]
    exact ⟨outline_opened .., rfl⟩
  | ok command =>
    have carries := i.outline_carryOut (s.opened .command i.packet) command
    rw [outline_opened] at carries
    cases carried : Control.carryOut i.backend command (s.opened .command i.packet) with
    | error fault s' =>
      rw [carried] at carries
      rw [Control.dispatch_uncarried asked carried]
      refine ⟨carries, ?_⟩
      simp only [i.completes_of_uncarried carried, Bool.false_and]
      rfl
    | ok done s' =>
      rw [carried] at carries
      rw [Control.dispatch_carried asked carried]
      simp only [i.completes_of_carried carried, Bool.true_and]
      cases sent : i.circumstances.ack with
      | none =>
        rw [Circumstances.network_sent sent]
        exact ⟨(outline_answered ..).trans carries, rfl⟩
      | some e =>
        rw [Circumstances.network_lost sent]
        exact ⟨(outline_sealing ..).trans carries, rfl⟩

theorem outline_silence (s : Server σ) :
    outline gauge (Control.silence i.backend s) = (outline gauge s).silenced := by
  rw [outline_of_quiet (i.capturing_requestStop s.pairing.device)]
  rfl

def command (key : Block) (v : Outline) : Outline :=
  if i.loses key then (i.dispatch key v).silenced else i.dispatch key v

theorem outline_command (s : Server σ) :
    outline gauge (Handler.after
        (Control.handle i.backend i.circumstances i.packet i.sender s)) =
      i.command s.command.framer.codec.key (outline gauge s) := by
  obtain ⟨same, lost⟩ := i.outline_dispatch s
  rw [Control.after_handle, command, ← lost, ← same]
  simp only
  split
  · exact i.outline_silence _
  · rfl

section Absorption

variable (key : Block)

/-- The stop after a lost acknowledgement leaves nothing of what the command has done. -/
theorem silenced_dispatch (v : Outline) : (i.dispatch key v).silenced = v.silenced := by
  have switched (on : Bool) : (i.switch on v).silenced = v.silenced := by
    unfold switch
    split
    · simp only [Outline.silenced, Outline.quiet, Outline.switched, Option.map_map,
        Session.halt_comp_command]
    · rfl
  unfold dispatch
  split
  · rename_i command _
    cases command with
    | ping => rfl
    | play => exact switched true
    | pause => exact switched false
    | stop =>
      simp only [carries, Outline.silenced, Outline.quiet, Outline.stopped, Option.map_map,
        Session.halt_comp_command]
  · rfl

/-- Nor does a handshake see anything of a server that this stop would not leave. -/
theorem silenced_handshake {v w : Outline} (same : v.silenced = w.silenced) :
    (i.handshake key v).silenced = (i.handshake key w).silenced := by
  have sessions : v.silenced.sessions = w.silenced.sessions := by rw [same]
  have destination : v.silenced.destination = w.silenced.destination := by rw [same]
  change v.sessions = w.sessions at sessions
  change v.destination = w.destination at destination
  unfold handshake
  split
  · simp only [pairs, Outline.begun, Outline.cleared, Outline.quiet, sessions, destination]
  · exact same

end Absorption

end Incoming

end PairedAudio.Serial
