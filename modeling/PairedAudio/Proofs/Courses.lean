import Mathlib.Logic.ExistsUnique
import PairedAudio.Proofs.Backend
import PairedAudio.Proofs.Refusal
import PairedAudio.Proofs.Run

/-! The courses that a handshake can take, by what goes wrong in it, and what each of them leaves.

Every datagram at the control port takes exactly one course. A reply goes out in the last two of
them only, and what it says is what the backend advertised when it was made, as integers.
-/

set_option autoImplicit false

namespace PairedAudio

open Capture (Advertised Calls Device Fault Tone Watched)
open Cipher (Key)
open Wire (Settings)

variable {σ : Type}

def largestField : Nat := 2147483647

/-- A record that says which port was asked for, and what a backend advertises. -/
structure Wire.Settings.Reports (s : Settings) (port : UInt16) (a : Advertised)
    (commandPort : UInt16) : Prop where
  clientPort : s.clientPort.toInt = port.toNat
  audioFormat : s.audioFormat.toInt = a.encoding.wireCode.toInt
  bitsPerSample : s.bitsPerSample.toInt = a.bits.toNat
  channelCount : s.channelCount.toInt = a.channels.toNat
  sampleRate : s.sampleRate.toInt = a.rate.toNat
  enginePeriod : s.enginePeriod.toInt = a.period.toNat
  commandPort : s.commandPort.toInt = commandPort.toNat

theorem toInt_ofNat_of_le {n : Nat} (fits : n ≤ largestField) : (Int32.ofNat n).toInt = n := by
  rw [largestField] at fits
  exact Int32.toInt_ofNat_of_lt (by omega)

theorem Wire.Settings.toInt_clientPort {s : Settings} {port : UInt16} (asked : s.audioPort = .ok port) :
    s.clientPort.toInt = port.toNat := by
  simp only [audioPort] at asked
  split at asked
  · cases asked
    rw [UInt16.toNat_ofNat']
    omega
  · cases asked

namespace Handshake

theorem wireField_error_iff (value : UInt32) (what : String) :
    (∃ e, wireField value what = .error e) ↔ largestField < value.toNat := by
  unfold wireField largestField
  constructor
  · rintro ⟨e, refused⟩
    split at refused
    · cases refused
    · omega
  · intro large
    rw [if_neg (by omega)]
    exact ⟨_, rfl⟩

theorem toInt_wireField {value : UInt32} {what : String} {field : Int32}
    (fits : wireField value what = .ok field) : field.toInt = value.toNat := by
  unfold wireField at fits
  split at fits
  · cases fits
    exact toInt_ofNat_of_le (by unfold largestField; omega)
  · cases fits

theorem answer_error_iff (request : Settings) (a : Advertised) (commandPort : UInt16) :
    (∃ e, answer request a commandPort = .error e) ↔
      largestField < a.rate.toNat ∨ largestField < a.period.toNat := by
  rw [← wireField_error_iff a.rate "sample rate", ← wireField_error_iff a.period "engine period"]
  unfold answer
  cases wireField a.rate "sample rate" with
  | error e => exact ⟨fun _ => .inl ⟨e, rfl⟩, fun _ => ⟨e, rfl⟩⟩
  | ok rate =>
    cases wireField a.period "engine period" with
    | error e => exact ⟨fun _ => .inr ⟨e, rfl⟩, fun _ => ⟨e, rfl⟩⟩
    | ok period =>
      constructor
      · rintro ⟨e, refused⟩
        cases refused
      · rintro (⟨e, refused⟩ | ⟨e, refused⟩) <;> cases refused

theorem answer_reports {request settings : Settings} {port commandPort : UInt16} {a : Advertised}
    (asked : request.audioPort = .ok port) (answers : answer request a commandPort = .ok settings) :
    settings.Reports port a commandPort := by
  unfold answer at answers
  cases rate : wireField a.rate "sample rate" with
  | error e =>
    rw [rate] at answers
    cases answers
  | ok sampleRate =>
    cases period : wireField a.period "engine period" with
    | error e =>
      rw [rate, period] at answers
      cases answers
    | ok enginePeriod =>
      rw [rate, period] at answers
      cases answers
      -- Fields of sixteen bits always fit.
      have short (n : UInt16) : (Int32.ofNat n.toNat).toInt = n.toNat := by
        have bound := n.toNat_lt
        exact toInt_ofNat_of_le (by unfold largestField; omega)
      exact {
        clientPort := request.toInt_clientPort asked
        audioFormat := rfl
        bitsPerSample := short a.bits
        channelCount := short a.channels
        sampleRate := toInt_wireField rate
        enginePeriod := toInt_wireField period
        commandPort := short commandPort }

end Handshake

/-- The handling of one datagram at the control port, by what goes into it. The backend is any, with a
record of the calls that it gets. -/
structure Attempt (σ : Type) where
  backend : Device σ
  circumstances : Circumstances
  packet : List UInt8
  sender : SocketAddress
  before : Server (Watched σ Calls)

inductive Course
  /-- The datagram or the port that it asks for does not decode. -/
  | unread
  /-- No reply can be made, or it cannot be sent. -/
  | refused
  /-- The reply has gone out, but the audio cannot be aimed or the capture does not start. -/
  | broken
  | paired
  deriving DecidableEq, Repr

namespace Attempt

variable {key : Key} {a : Attempt σ} {device : Watched σ Calls} {port : UInt16}

def result (a : Attempt σ) : EStateM.Result HandlerFault (Server (Watched σ Calls)) Unit :=
  Handshake.handle a.backend.recorded a.circumstances a.packet a.sender a.before

def after (a : Attempt σ) : Server (Watched σ Calls) := Handler.after a.result

def preparing (a : Attempt σ) : EStateM.Result Fault (Watched σ Calls) Unit :=
  a.backend.recorded.prepare a.before.format (a.backend.recorded.stop a.before.pairing.device)

inductive Unanswered (a : Attempt σ) : Prop
  | unprepared {fault : Fault} {device : Watched σ Calls} (failed : a.preparing = .error fault device)
  | unrepresentable {device : Watched σ Calls} (prepared : a.preparing = .ok () device)
      (large : largestField < (a.backend.advertised device.device).rate.toNat ∨
        largestField < (a.backend.advertised device.device).period.toNat)
  | unsent {device : Watched σ Calls} {e : OsError} (prepared : a.preparing = .ok () device)
      (lost : a.circumstances.reply = some e)

structure Answered (a : Attempt σ) (device : Watched σ Calls) : Prop where
  prepared : a.preparing = .ok () device
  rate : (a.backend.advertised device.device).rate.toNat ≤ largestField
  period : (a.backend.advertised device.device).period.toNat ≤ largestField
  sent : a.circumstances.reply = none

inductive Broken (a : Attempt σ) (device : Watched σ Calls) : Prop
  | unconnected {e : OsError} (refused : a.circumstances.connect = some e)
  | unstarted {fault : Fault} {device' : Watched σ Calls}
      (failed : a.backend.recorded.start device = .error fault device')

structure Paired (a : Attempt σ) (device : Watched σ Calls) : Prop where
  connected : a.circumstances.connect = none
  started : ∃ device', a.backend.recorded.start device = .ok () device'

/-- One datagram has gone out, to the sender. With the key it reads as the port that was asked for and
what the backend advertised. -/
def Replied (key : Key) (a : Attempt σ) (port : UInt16) (device : Watched σ Calls) : Prop :=
  ∃ packet plain settings,
    a.after.sent = a.before.sent ++ [⟨a.sender, packet⟩] ∧
    Framer.decode packet (.ofKey key) = .ok plain (.ofKey key) ∧
    Settings.decode plain = .ok settings ∧
    settings.Reports port (a.backend.advertised device.device) a.before.commandPort

/-- The course that an attempt takes: what brings it about, and what it does. -/
inductive Takes (key : Key) (a : Attempt σ) : Course → Prop
  | unread (undecodable : Undecodable key.block .control a.packet)
      (unchanged : a.after.pairing = a.before.pairing) (silent : a.after.sent = a.before.sent) :
      Takes key a .unread
  | refused {request : Settings} {port : UInt16} {succeeded : Bool}
      (asks : Handshake.requestIn key.block a.packet = .ok (request, port)) (failed : a.Unanswered)
      (calls : a.after.pairing.device.seen = a.before.pairing.device.seen ++
        [(.stop, true), (.prepare a.before.format, succeeded)])
      (ended : a.after.session = none)
      (aim : a.after.pairing.destination = a.before.pairing.destination)
      (silent : a.after.sent = a.before.sent) :
      Takes key a .refused
  | broken {request : Settings} {port : UInt16} {device : Watched σ Calls}
      (asks : Handshake.requestIn key.block a.packet = .ok (request, port))
      (answered : a.Answered device) (failed : a.Broken device) (ended : a.after.session = none)
      (replied : a.Replied key port device) :
      Takes key a .broken
  | paired {request : Settings} {port : UInt16} {device : Watched σ Calls} {session : Session}
      (asks : Handshake.requestIn key.block a.packet = .ok (request, port))
      (answered : a.Answered device) (done : a.Paired device)
      (present : a.after.session = some session)
      (new : ∀ previous, a.before.session = some previous → previous.id ≠ session.id)
      (streaming : session.state = .streaming) (client : session.client = ⟨a.sender.ip, port⟩)
      (replied : a.Replied key port device) :
      Takes key a .paired

theorem Unanswered.not_answered (failed : a.Unanswered) : ¬ a.Answered device := by
  intro answered
  cases failed with
  | unprepared failed => cases failed.symm.trans answered.prepared
  | unrepresentable prepared large =>
    cases prepared.symm.trans answered.prepared
    have rate := answered.rate
    have period := answered.period
    omega
  | unsent prepared lost => cases lost.symm.trans answered.sent

theorem Broken.not_paired (failed : a.Broken device) : ¬ a.Paired device := by
  intro paired
  cases failed with
  | unconnected refused => cases refused.symm.trans paired.connected
  | unstarted failed =>
    obtain ⟨device', started⟩ := paired.started
    cases failed.symm.trans started

theorem not_undecodable {request : Settings}
    (asks : Handshake.requestIn key.block a.packet = .ok (request, port)) :
    ¬ Undecodable key.block .control a.packet := by
  intro undecodable
  obtain ⟨e, unread⟩ := (Handshake.requestIn_error_iff key.block a.packet).mpr undecodable
  cases unread.symm.trans asks

theorem Takes.unique {x y : Course} (left : a.Takes key x) (right : a.Takes key y) : x = y := by
  -- The causes exclude each other, so what the courses do need not be compared.
  cases left with
  | unread undecodable =>
    cases right with
    | unread => rfl
    | refused asks | broken asks | paired asks => exact absurd undecodable (not_undecodable asks)
  | refused asks failed =>
    cases right with
    | unread undecodable => exact absurd undecodable (not_undecodable asks)
    | refused => rfl
    | broken _ answered | paired _ answered => exact absurd answered failed.not_answered
  | broken asks answered failed =>
    cases right with
    | unread undecodable => exact absurd undecodable (not_undecodable asks)
    | refused _ unanswered => exact absurd answered unanswered.not_answered
    | broken => rfl
    | paired _ answered' done =>
      cases answered.prepared.symm.trans answered'.prepared
      exact absurd done failed.not_paired
  | paired asks answered done =>
    cases right with
    | unread undecodable => exact absurd undecodable (not_undecodable asks)
    | refused _ unanswered => exact absurd answered unanswered.not_answered
    | broken _ answered' failed =>
      cases answered.prepared.symm.trans answered'.prepared
      exact absurd done failed.not_paired
    | paired => rfl

theorem answered_of_answer {request settings : Settings} (prepared : a.preparing = .ok () device)
    (answers : Handshake.answer request (a.backend.advertised device.device) a.before.commandPort =
      .ok settings)
    (sent : a.circumstances.reply = none) : a.Answered device := by
  have fits : ¬ (largestField < (a.backend.advertised device.device).rate.toNat ∨
      largestField < (a.backend.advertised device.device).period.toNat) := by
    intro large
    obtain ⟨e, refused⟩ := (Handshake.answer_error_iff request _ a.before.commandPort).mpr large
    cases refused.symm.trans answers
  exact ⟨prepared, by omega, by omega, sent⟩

theorem replied_of_sealed {request settings : Settings} (server : Server (Watched σ Calls))
    (holds : server.control.framer.codec.key = key.block)
    (asks : Handshake.requestIn key.block a.packet = .ok (request, port))
    (answers : Handshake.answer request (a.backend.advertised device.device) a.before.commandPort =
      .ok settings)
    (sent : a.after.sent = a.before.sent ++ [⟨a.sender, server.packetFor .control settings.encode⟩]) :
    a.Replied key port device := by
  have opens : Framer.payload key.block (server.packetFor .control settings.encode) =
      .ok settings.encode := by
    rw [Server.packetFor, Server.worker, holds]
    exact Framer.payload_sealed key.block _ settings.encode
  exact ⟨_, _, settings, sent, Framer.decode_of_payload opens, Settings.decode_encode settings,
    Handshake.answer_reports (Handshake.audioPort_of_requestIn asks) answers⟩

theorem takes_of_unread (sound : a.before.Sound key) {e : CodecError}
    (unread : Handshake.requestIn key.block a.packet = .error e) : a.Takes key .unread := by
  have after : a.after = a.before.opened .control a.packet := by
    rw [Attempt.after, Attempt.result, Handshake.handle_unread (sound.control ▸ unread)]
    rfl
  refine .unread ((Handshake.requestIn_error_iff _ _).mp ⟨e, unread⟩) ?_ ?_
  · rw [after, Server.opened, Server.setWorker_pairing]
  · rw [after, Server.opened, Server.setWorker_sent]

theorem seen_of_prepared (prepared : a.preparing = .ok () device) :
    device.seen = a.before.pairing.device.seen ++
      [(.stop, true), (.prepare a.before.format, true)] := by
  unfold preparing at prepared
  have recorded := Capture.recorded_prepare_ok prepared
  rw [recorded]
  exact List.append_assoc ..

theorem seen_of_unprepared {fault : Fault} (failed : a.preparing = .error fault device) :
    device.seen = a.before.pairing.device.seen ++
      [(.stop, true), (.prepare a.before.format, false)] := by
  unfold preparing at failed
  have recorded := Capture.recorded_prepare_error failed
  rw [recorded]
  exact List.append_assoc ..

theorem takes_of_unanswered {request : Settings} {succeeded : Bool}
    (asks : Handshake.requestIn key.block a.packet = .ok (request, port)) (failed : a.Unanswered)
    (seen : device.seen = a.before.pairing.device.seen ++
      [(.stop, true), (.prepare a.before.format, succeeded)])
    (pairing : a.after.pairing = ⟨device, none, a.before.pairing.destination⟩)
    (silent : a.after.sent = a.before.sent) : ∃ course, a.Takes key course := by
  have calls : a.after.pairing.device.seen = a.before.pairing.device.seen ++
      [(.stop, true), (.prepare a.before.format, succeeded)] := by
    rw [pairing]
    exact seen
  refine ⟨.refused, .refused asks failed calls ?_ ?_ silent⟩
  · rw [Server.session, pairing]
  · rw [pairing]

theorem result_ends (sound : a.before.Sound key) {request : Settings}
    (asks : Handshake.requestIn key.block a.packet = .ok (request, port)) :
    Handshake.Ends a.backend.recorded a.circumstances request port a.sender
      (a.before.opened .control a.packet) a.result := by
  rw [result, Handshake.handle_read (sound.control ▸ asks)]
  exact Handshake.pair_ends ..

theorem preparing_of_opened (a : Attempt σ) :
    a.backend.recorded.prepare (a.before.opened .control a.packet).format
      (a.backend.recorded.stop (a.before.opened .control a.packet).pairing.device) = a.preparing := by
  rw [Server.opened_format, Server.opened_pairing, preparing]

theorem takes_of_read (sound : a.before.Sound key) {request : Settings}
    (asks : Handshake.requestIn key.block a.packet = .ok (request, port)) :
    ∃ course, a.Takes key course := by
  have holds : (a.before.opened .control a.packet).control.framer.codec.key = key.block :=
    ((Server.sound_kept a.backend.recorded key).opened .control a.packet sound).control
  have preparing := a.preparing_of_opened
  have ends := result_ends sound asks
  have after : a.after = Handler.after a.result := rfl
  generalize a.result = r at ends after
  -- Three exits come before the reply and three after it.
  cases ends with
  | unprepared failed =>
    rw [preparing] at failed
    refine takes_of_unanswered asks (.unprepared failed) (seen_of_unprepared failed) ?_ ?_ <;>
      simp [after, Handler.after]
  | unanswerable prepared refused =>
    rw [preparing] at prepared
    have large := (Handshake.answer_error_iff ..).mp ⟨_, refused⟩
    refine takes_of_unanswered asks (.unrepresentable prepared large) (seen_of_prepared prepared) ?_ ?_ <;>
      simp [after, Handler.after]
  | unsent prepared answers lost =>
    rw [preparing] at prepared
    refine takes_of_unanswered asks (.unsent prepared lost) (seen_of_prepared prepared) ?_ ?_ <;>
      simp [after, Handler.after]
  | @unconnected device settings e prepared answers sent refused =>
    rw [preparing] at prepared
    rw [Server.opened_commandPort] at answers
    have answered := answered_of_answer prepared answers sent
    have replied : a.Replied key port device :=
      replied_of_sealed ((a.before.opened .control a.packet).unpaired device) holds asks answers
        (by simp [after, Handler.after])
    exact ⟨.broken, .broken asks answered (.unconnected refused)
      (by simp [after, Handler.after, Server.session]) replied⟩
  | @unstarted device device' settings fault prepared answers sent connected failed =>
    rw [preparing] at prepared
    rw [Server.opened_commandPort] at answers
    have answered := answered_of_answer prepared answers sent
    have replied : a.Replied key port device :=
      replied_of_sealed ((a.before.opened .control a.packet).unpaired device) holds asks answers
        (by simp [after, Handler.after])
    exact ⟨.broken, .broken asks answered (.unstarted failed)
      (by simp [after, Handler.after, Server.session]) replied⟩
  | @paired device device' settings prepared answers sent connected started =>
    rw [preparing] at prepared
    rw [Server.opened_commandPort] at answers
    have answered := answered_of_answer prepared answers sent
    have replied : a.Replied key port device :=
      replied_of_sealed ((a.before.opened .control a.packet).unpaired device) holds asks answers
        (by simp [after, Handler.after, Handshake.begin])
    have present : a.after.session =
        some ⟨a.before.sessions, ⟨a.sender.ip, port⟩, .streaming, a.circumstances.now⟩ := by
      simp [after, Handler.after, Handshake.begin, Server.session]
    have new (previous : Session) (before : a.before.session = some previous) :
        previous.id ≠ a.before.sessions := Nat.ne_of_lt (sound.fresh previous before)
    exact ⟨.paired, .paired asks answered ⟨connected, device', started⟩ present new rfl rfl replied⟩

/-- Every datagram at the control port of a sound server takes one course and no other. -/
theorem takes_one_course (a : Attempt σ) (sound : a.before.Sound key) :
    ∃! course, a.Takes key course := by
  have takes : ∃ course, a.Takes key course := by
    cases asked : Handshake.requestIn key.block a.packet with
    | error e => exact ⟨.unread, takes_of_unread sound asked⟩
    | ok found => exact takes_of_read sound asked
  obtain ⟨course, taken⟩ := takes
  exact ⟨course, taken, fun other takes => takes.unique taken⟩

/-- A second client that asks a server of the standard tone, which streams to a first one. -/
theorem takes_one_course_standard_tone :
    let key := Standard.key
    let server := Standard.server Tone.device.recorded ⟨.standard, []⟩
    let first : Event := .arrival .control {} (.datagram Standard.request Standard.client)
    let streaming := server.run Tone.device.recorded [first]
    streaming.Sound key ∧ ∃! course,
      Takes key ⟨Tone.device, {}, Standard.request, ⟨⟨10, 0, 0, 8⟩, 40001⟩, streaming⟩ course := by
  intro key server first streaming
  have begins : server.Sound key := .initial ..
  have sound : streaming.Sound key :=
    (Server.sound_kept Tone.device.recorded key).run [first] begins
  -- From here on it does not matter how the server came to be.
  clear_value streaming
  exact ⟨sound, takes_one_course _ sound⟩

end Attempt

end PairedAudio
