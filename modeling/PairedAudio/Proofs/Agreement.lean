import PairedAudio.Capture.Scripted
import PairedAudio.Proofs.Courses

/-! What a client is told about its pairing, and what becomes of the pairing.

The reply to a request goes out before the audio is aimed at the client and the capture started. A
client that gets no reply is not paired; one that gets a reply is paired only if both of these
succeed as well.
-/

set_option autoImplicit false

namespace PairedAudio

open Capture (Calls Device Scripted Tone Watched)
open Cipher (IvSource Key)
open Wire (Settings)

variable {σ : Type}

namespace Server

def StreamsTo (client : SocketAddress) (s : Server σ) : Prop :=
  ∃ session, s.session = some session ∧ session.client = client ∧ session.state = .streaming

def Tells (key : Key) (recipient : SocketAddress) (port : UInt16) (before after : Server σ) : Prop :=
  ∃ packet plain settings,
    after.sent = before.sent ++ [⟨recipient, packet⟩] ∧
    Framer.decode packet (.ofKey key) = .ok plain (.ofKey key) ∧
    Settings.decode plain = .ok settings ∧
    settings.clientPort.toInt = port.toNat

def Starts (succeeded : Bool) (before after : Server (Watched σ Calls)) : Prop :=
  ∃ calls, after.pairing.device.seen =
    before.pairing.device.seen ++ calls ++ [(.start, succeeded)]

/-- How telling a client and pairing with it go together. -/
inductive Agreement (key : Key) (c : Circumstances) (sender : SocketAddress) (port : UInt16)
    (before after : Server (Watched σ Calls)) : Prop
  | refused (silent : after.sent = before.sent) (ended : after.session = none)
  | broken (told : Tells key sender port before after) (ended : after.session = none)
      (failed : (∃ e, c.connect = some e) ∨ Starts false before after)
  | paired (told : Tells key sender port before after) (streams : after.StreamsTo ⟨sender.ip, port⟩)
      (connected : c.connect = none) (started : Starts true before after)

theorem not_tells_of_silent {key : Key} {recipient : SocketAddress} {port : UInt16}
    {before after : Server σ} (silent : after.sent = before.sent) :
    ¬ Tells key recipient port before after := by
  rintro ⟨packet, plain, settings, sent, -⟩
  rw [silent] at sent
  have longer := congrArg List.length sent
  rw [List.length_append, List.length_singleton] at longer
  omega

theorem not_streamsTo_of_ended {client : SocketAddress} {s : Server σ} (ended : s.session = none) :
    ¬ s.StreamsTo client := by
  rintro ⟨session, present, -⟩
  rw [ended] at present
  cases present

theorem Starts.unique {x y : Bool} {before after : Server (Watched σ Calls)}
    (left : Starts x before after) (right : Starts y before after) : x = y := by
  obtain ⟨calls, seen⟩ := left
  obtain ⟨calls', seen'⟩ := right
  have last := (List.append_inj' (seen.symm.trans seen') rfl).2
  cases last
  rfl

namespace Agreement

variable {key : Key} {c : Circumstances} {sender : SocketAddress} {port : UInt16}
  {before after : Server (Watched σ Calls)}

theorem streams_iff (agrees : Agreement key c sender port before after) :
    after.StreamsTo ⟨sender.ip, port⟩ ↔
      Tells key sender port before after ∧ c.connect = none ∧ Starts true before after := by
  cases agrees with
  | refused silent ended =>
    constructor
    · intro streams
      exact absurd streams (not_streamsTo_of_ended ended)
    · intro ⟨told, _, _⟩
      exact absurd told (not_tells_of_silent silent)
  | broken told ended failed =>
    constructor
    · intro streams
      exact absurd streams (not_streamsTo_of_ended ended)
    · intro ⟨_, connected, started⟩
      rcases failed with ⟨e, refused⟩ | failed
      · cases refused.symm.trans connected
      · cases failed.unique started
  | paired told streams connected started => exact ⟨fun _ => ⟨told, connected, started⟩, fun _ => streams⟩

theorem ended_of_not_streams (agrees : Agreement key c sender port before after)
    (unpaired : ¬ after.StreamsTo ⟨sender.ip, port⟩) : after.session = none := by
  cases agrees with
  | refused _ ended | broken _ ended => exact ended
  | paired _ streams => exact absurd streams unpaired

theorem failed_of_told (agrees : Agreement key c sender port before after)
    (told : Tells key sender port before after) (unpaired : ¬ after.StreamsTo ⟨sender.ip, port⟩) :
    (∃ e, c.connect = some e) ∨ Starts false before after := by
  cases agrees with
  | refused silent => exact absurd told (not_tells_of_silent silent)
  | broken _ _ failed => exact failed
  | paired _ streams => exact absurd streams unpaired

theorem silent_or_told (agrees : Agreement key c sender port before after) :
    after.sent = before.sent ∨ Tells key sender port before after := by
  cases agrees with
  | refused silent => exact .inl silent
  | broken told | paired told => exact .inr told

theorem of_same {before' after' : Server (Watched σ Calls)}
    (agrees : Agreement key c sender port before after) (sent : before'.sent = before.sent)
    (pairing : before'.pairing = before.pairing) (sent' : after'.sent = after.sent)
    (pairing' : after'.pairing = after.pairing) : Agreement key c sender port before' after' := by
  have same : after'.session = after.session := congrArg Pairing.session pairing'
  have tells (told : Tells key sender port before after) : Tells key sender port before' after' := by
    rw [Tells, sent, sent']
    exact told
  have starts {succeeded : Bool} (started : Starts succeeded before after) :
      Starts succeeded before' after' := by
    rw [Starts, pairing, pairing']
    exact started
  cases agrees with
  | refused silent ended =>
    exact .refused (by rw [sent, sent', silent]) (same.trans ended)
  | broken told ended failed => exact .broken (tells told) (same.trans ended) (failed.imp id starts)
  | paired told streams connected started =>
    refine .paired (tells told) ?_ connected (starts started)
    rw [StreamsTo, same]
    exact streams

end Agreement

end Server

namespace Attempt

variable {key : Key} {a : Attempt σ} {device device' : Watched σ Calls} {port : UInt16}

theorem Replied.tells (replied : a.Replied key port device) :
    Server.Tells key a.sender port a.before a.after := by
  obtain ⟨packet, plain, settings, sent, opens, decoded, reports⟩ := replied
  exact ⟨packet, plain, settings, sent, opens, decoded, reports.clientPort⟩

theorem starts_of_device {succeeded : Bool} (prepared : a.preparing = .ok () device)
    (called : device'.seen = device.seen ++ [(.start, succeeded)])
    (left : a.after.pairing.device = device') : Server.Starts succeeded a.before a.after := by
  refine ⟨[(.stop, true), (.prepare a.before.format, true)], ?_⟩
  rw [left, called, seen_of_prepared prepared]

theorem agrees (sound : a.before.Sound key) {request : Settings}
    (asks : Handshake.requestIn key.block a.packet = .ok (request, port)) :
    Server.Agreement key a.circumstances a.sender port a.before a.after := by
  have holds : (a.before.opened .control a.packet).control.framer.codec.key = key.block :=
    ((Server.sound_kept a.backend.recorded key).opened .control a.packet sound).control
  have preparing := a.preparing_of_opened
  have ends := result_ends sound asks
  have after : a.after = Handler.after a.result := rfl
  generalize a.result = r at ends after
  -- The session has gone before the first of the six exits, and the reply goes out after the third.
  cases ends with
  | unprepared | unanswerable | unsent =>
    exact .refused (by simp [after, Handler.after]) (by simp [after, Handler.after, Server.session])
  | @unconnected device settings e prepared answers sent refused =>
    rw [Server.opened_commandPort] at answers
    have replied : a.Replied key port device :=
      replied_of_sealed ((a.before.opened .control a.packet).unpaired device) holds asks answers
        (by simp [after, Handler.after])
    exact .broken replied.tells (by simp [after, Handler.after, Server.session]) (.inl ⟨e, refused⟩)
  | @unstarted device device' settings fault prepared answers sent connected failed =>
    rw [preparing] at prepared
    rw [Server.opened_commandPort] at answers
    have replied : a.Replied key port device :=
      replied_of_sealed ((a.before.opened .control a.packet).unpaired device) holds asks answers
        (by simp [after, Handler.after])
    have started : Server.Starts false a.before a.after :=
      starts_of_device prepared (Capture.recorded_start_error failed) (by simp [after, Handler.after])
    exact .broken replied.tells (by simp [after, Handler.after, Server.session]) (.inr started)
  | @paired device device' settings prepared answers sent connected done =>
    rw [preparing] at prepared
    rw [Server.opened_commandPort] at answers
    have replied : a.Replied key port device :=
      replied_of_sealed ((a.before.opened .control a.packet).unpaired device) holds asks answers
        (by simp [after, Handler.after, Handshake.begin])
    have started : Server.Starts true a.before a.after :=
      starts_of_device prepared (Capture.recorded_start_ok done)
        (by simp [after, Handler.after, Handshake.begin])
    have present : a.after.session =
        some ⟨a.before.sessions, ⟨a.sender.ip, port⟩, .streaming, a.circumstances.now⟩ := by
      simp [after, Handler.after, Handshake.begin, Server.session]
    exact .paired replied.tells ⟨_, present, rfl, rfl⟩ connected started

/-- A reply that goes out before one of the last two steps fails tells of a session that never is. -/
theorem told_of_broken (sound : a.before.Sound key) {request : Settings}
    (asks : Handshake.requestIn key.block a.packet = .ok (request, port))
    (answered : a.Answered device) (failed : a.Broken device) :
    Server.Tells key a.sender port a.before a.after ∧ a.after.session = none := by
  obtain ⟨course, takes⟩ := takes_of_read sound asks
  cases takes with
  | unread undecodable => exact absurd undecodable (not_undecodable asks)
  | refused _ unanswered => exact absurd answered unanswered.not_answered
  | broken asks' _ _ ended replied =>
    cases asks.symm.trans asks'
    exact ⟨replied.tells, ended⟩
  | paired _ answered' done =>
    cases answered.prepared.symm.trans answered'.prepared
    exact absurd done failed.not_paired

end Attempt

namespace Server

def attempt (backend : Device σ) (c : Circumstances) (bytes : List UInt8) (sender : SocketAddress)
    (s : Server (Watched σ Calls)) : Attempt σ :=
  let received := bytes.take receiveLength
  ⟨backend, c, received, sender, s.store .control received⟩

section Arrival

variable {backend : Device σ} {key : Key} {s : Server (Watched σ Calls)} {request : Settings}
  {port : UInt16} {bytes : List UInt8}

theorem receive_attempt (backend : Device σ) (running : s.running = true) (awake : (s.worker .control).ended = false)
    (c : Circumstances) (bytes : List UInt8) (sender : SocketAddress) :
    let attempt := s.attempt backend c bytes sender
    let after := s.step backend.recorded (.arrival .control c (.datagram bytes sender))
    (s.sent = attempt.before.sent ∧ s.pairing = attempt.before.pairing) ∧
      after.sent = attempt.after.sent ∧ after.pairing = attempt.after.pairing := by
  intro attempt after
  have whole : attempt.after = _ := (after_handle_control ..).symm
  have settled : after = settle .control
      (handle backend.recorded .control c attempt.packet sender attempt.before) :=
    receive_datagram running awake c bytes sender
  refine ⟨⟨(setWorker_sent ..).symm, (setWorker_pairing ..).symm⟩, ?_, ?_⟩
  · rw [settled, settle_sent, whole]
    rfl
  · rw [settled, settle_pairing, whole]
    rfl

theorem receive_agrees (sound : s.Sound key) (running : s.running = true)
    (awake : (s.worker .control).ended = false) (c : Circumstances) (sender : SocketAddress)
    (asks : Handshake.requestIn key.block (bytes.take receiveLength) = .ok (request, port)) :
    Agreement key c sender port s
      (s.step backend.recorded (.arrival .control c (.datagram bytes sender))) := by
  have stored : (s.attempt backend c bytes sender).before.Sound key :=
    (sound_kept backend.recorded key).store .control _ sound
  obtain ⟨⟨sent, pairing⟩, sent', pairing'⟩ :=
    receive_attempt backend running awake c bytes sender
  exact (Attempt.agrees stored asks).of_same sent pairing sent' pairing'

theorem receive_told_of_broken (sound : s.Sound key) (running : s.running = true)
    (awake : (s.worker .control).ended = false) (c : Circumstances) (sender : SocketAddress)
    (asks : Handshake.requestIn key.block (bytes.take receiveLength) = .ok (request, port))
    {device : Watched σ Calls} (answered : (s.attempt backend c bytes sender).Answered device)
    (failed : (s.attempt backend c bytes sender).Broken device) :
    let after := s.step backend.recorded (.arrival .control c (.datagram bytes sender))
    Tells key sender port s after ∧ after.session = none := by
  intro after
  have stored : (s.attempt backend c bytes sender).before.Sound key :=
    (sound_kept backend.recorded key).store .control _ sound
  obtain ⟨⟨sent, -⟩, sent', pairing'⟩ :=
    receive_attempt backend running awake c bytes sender
  obtain ⟨told, ended⟩ := Attempt.told_of_broken stored asks answered failed
  constructor
  · rw [Tells, sent, sent']
    exact told
  · rw [session, pairing']
    exact ended

end Arrival

/-- A client that asks to be paired is streamed to in the end exactly if it was told so and, after
that, its audio could be aimed and the capture started. If it was told in vain, one of these two has
failed, and there is no session at all. -/
theorem paired_iff_told_and_started {backend : Device σ} {config : Config} {device : σ}
    {commandPort : UInt16} {ivs : IvSource} {setup : Setup} {s : Server (Watched σ Calls)}
    (begun : start backend.recorded config ⟨device, []⟩ commandPort ivs setup = .ok s)
    (events : List Event) (c : Circumstances) (bytes : List UInt8) (sender : SocketAddress)
    (request : Settings) (port : UInt16) (running : (s.run backend.recorded events).running = true)
    (awake : (s.run backend.recorded events).control.ended = false)
    (asks : Handshake.requestIn s.key.block (bytes.take receiveLength) = .ok (request, port)) :
    let before := s.run backend.recorded events
    let after := before.step backend.recorded (.arrival .control c (.datagram bytes sender))
    (after.StreamsTo ⟨sender.ip, port⟩ ↔
      Tells s.key sender port before after ∧ c.connect = none ∧ Starts true before after) ∧
    (Tells s.key sender port before after → ¬ after.StreamsTo ⟨sender.ip, port⟩ →
      after.session = none ∧ ((∃ e, c.connect = some e) ∨ Starts false before after)) ∧
    (after.sent = before.sent ∨ Tells s.key sender port before after) := by
  intro before after
  have sound := (sound_kept backend.recorded s.key).run events (sound_of_start begun)
  have agrees : Agreement s.key c sender port before after :=
    receive_agrees sound running awake c sender asks
  refine ⟨agrees.streams_iff, ?_, agrees.silent_or_told⟩
  intro told unpaired
  exact ⟨agrees.ended_of_not_streams unpaired, agrees.failed_of_told told unpaired⟩

/-- A client that asks the standard tone while its audio cannot be aimed. -/
theorem paired_iff_told_and_started_standard_tone :
    let server := Standard.server Tone.device.recorded ⟨.standard, []⟩
    let sender := Standard.client
    let request := Standard.request
    let c : Circumstances := { connect := some ⟨101⟩ }
    let events : List Event := [.arrival .command {} (.failure .connectionReset)]
    let before := server.run Tone.device.recorded events
    let after := before.step Tone.device.recorded (.arrival .control c (.datagram request sender))
    start Tone.device.recorded Standard.config ⟨.standard, []⟩ 5541 (.seeded default) {} =
        .ok server ∧
      (before.running = true ∧ before.control.ended = false ∧
        Handshake.requestIn server.key.block (request.take receiveLength) =
          .ok (.request 9000, 9000)) ∧
      (after.StreamsTo ⟨sender.ip, 9000⟩ ↔
        Tells server.key sender 9000 before after ∧ c.connect = none ∧ Starts true before after) ∧
      (Tells server.key sender 9000 before after → ¬ after.StreamsTo ⟨sender.ip, 9000⟩ →
        after.session = none ∧ ((∃ e, c.connect = some e) ∨ Starts false before after)) ∧
      (after.sent = before.sent ∨ Tells server.key sender 9000 before after) := by
  intro server sender request c events before after
  have begun : start Tone.device.recorded Standard.config ⟨.standard, []⟩ 5541 (.seeded default) {} =
      .ok server := Standard.start ..
  have asks : Handshake.requestIn server.key.block (request.take receiveLength) =
      .ok (.request 9000, 9000) := Standard.requestIn_received
  exact ⟨begun, ⟨rfl, rfl, asks⟩, paired_iff_told_and_started begun events c request sender
    (.request 9000) 9000 rfl rfl asks⟩

/-- Telling alone is not enough: a backend that is there for the reply but refuses to start. -/
theorem told_and_not_streamed_to :
    let refusing : Scripted := { script := { refuseStart := some .deviceNotAvailable } }
    let server := Standard.server Scripted.device.recorded ⟨refusing, []⟩
    let sender := Standard.client
    let request := Standard.request
    let after := server.step Scripted.device.recorded (.arrival .control {} (.datagram request sender))
    start Scripted.device.recorded Standard.config ⟨refusing, []⟩ 5541 (.seeded default) {} =
        .ok server ∧
      ¬ (Tells server.key sender 9000 server after ↔ after.StreamsTo ⟨sender.ip, 9000⟩) := by
  intro refusing server sender request after
  have begun : start Scripted.device.recorded Standard.config ⟨refusing, []⟩ 5541 (.seeded default) {} =
      .ok server := Standard.start ..
  have asks : Handshake.requestIn server.key.block (request.take receiveLength) =
      .ok (.request 9000, 9000) := Standard.requestIn_received
  let ready : Watched Scripted Calls := ⟨(refusing.record .stop).record (.prepare .standard),
    [(.stop, true), (.prepare .standard, true)]⟩
  have answered : (server.attempt Scripted.device {} request sender).Answered ready :=
    ⟨rfl, by decide, by decide, rfl⟩
  have failed : (server.attempt Scripted.device {} request sender).Broken ready := .unstarted rfl
  obtain ⟨told, ended⟩ :=
    receive_told_of_broken (.initial ..) rfl rfl {} sender asks answered failed
  exact ⟨begun, fun same => not_streamsTo_of_ended ended (same.mp told)⟩

end Server

end PairedAudio
