import PairedAudio.Proofs.Invisible

/-! Which datagrams the two ports accept, by what can be read off them with the key.

A payload's length decides the length of its packet and the padding behind it, and both are decided by
the packet. So a record of fixed size comes in packets of one length and with one padding only, and no
other datagram, whole or cut to the receive buffer, is more to a server than noise.
-/

set_option autoImplicit false

namespace PairedAudio

open Capture (Device Tone)
open Cipher
open Wire (Command Settings signedValue)

variable {σ : Type}

theorem Cipher.Padding.count?_ok_iff (padded : List UInt8) (count : Nat) :
    count? padded = .ok count ↔
      (padded.getLastD 0).toNat = count ∧ 0 < count ∧ count ≤ 16 ∧ count ≤ padded.length := by
  have zero : padded.getLastD 0 = 0 ↔ (padded.getLastD 0).toNat = 0 := by
    rw [← UInt8.toNat_inj, UInt8.toNat_zero]
  simp only [count?, zero]
  constructor
  · intro counted
    split at counted
    · cases counted
    · cases counted
      omega
  · rintro ⟨rfl, positive, small, inside⟩
    rw [if_neg (by omega)]

namespace Framer

def text (key : Block) (packet : List UInt8) : List UInt8 :=
  Codec.paddedText key (vector packet) (packet.drop 16)

theorem length_text (key : Block) (packet : List UInt8) (aligned : packet.length % 16 = 0) :
    (text key packet).length = packet.length - 16 := by
  rw [text, Codec.length_paddedText key _ (by rw [List.length_drop]; omega), List.length_drop]

theorem payload_eq_text (key : Block) (packet : List UInt8) :
    payload key packet =
      if packet.length < minimumLength then .error (.malformed (.shortDatagram packet.length))
      else if Codec.isAligned (packet.drop 16) then
        match Padding.count? (text key packet) with
        | .error last => .error (.invalidPadding last)
        | .ok count => .ok ((text key packet).take ((text key packet).length - count))
      else .error (.malformed (.unalignedCiphertext (packet.drop 16).length)) := rfl

theorem shape_of_payload {key : Block} {packet plain : List UInt8}
    (opens : payload key packet = .ok plain) :
    packet.length = sealedLength plain.length ∧
      ((text key packet).getLastD 0).toNat = Padding.paddedLength plain.length - plain.length ∧
      plain = (text key packet).take plain.length := by
  rw [payload_eq_text] at opens
  by_cases short : packet.length < minimumLength
  · rw [if_pos short] at opens
    cases opens
  by_cases aligned : Codec.isAligned (packet.drop 16) = true
  · rw [if_neg short, if_pos aligned] at opens
    rw [Codec.isAligned_iff, List.length_drop] at aligned
    have length := length_text key packet (by omega)
    cases counted : Padding.count? (text key packet) with
    | error last =>
      rw [counted] at opens
      cases opens
    | ok count =>
      rw [counted] at opens
      cases opens
      obtain ⟨last, positive, small, inside⟩ := (Padding.count?_ok_iff _ _).mp counted
      have kept : ((text key packet).take ((text key packet).length - count)).length =
          (text key packet).length - count := List.length_take_of_le (Nat.sub_le _ _)
      rw [kept, sealedLength, Padding.paddedLength, last]
      exact ⟨by omega, by omega, rfl⟩
  · rw [if_neg short, if_neg aligned] at opens
    cases opens

theorem payload_of_shape {key : Block} {packet : List UInt8} {size : Nat}
    (length : packet.length = sealedLength size)
    (ends : ((text key packet).getLastD 0).toNat = Padding.paddedLength size - size) :
    payload key packet = .ok ((text key packet).take size) := by
  rw [sealedLength, Padding.paddedLength] at length
  rw [Padding.paddedLength] at ends
  have long : ¬ packet.length < minimumLength := by
    rw [minimumLength]
    omega
  have aligned : Codec.isAligned (packet.drop 16) = true := by
    rw [Codec.isAligned_iff, List.length_drop]
    omega
  have whole := length_text key packet (by omega)
  have counted := (Padding.count?_ok_iff (text key packet) _).mpr
    ⟨rfl, by omega, by omega, by omega⟩
  have kept : (text key packet).length - ((text key packet).getLastD 0).toNat = size := by omega
  rw [payload_eq_text, if_neg long, if_pos aligned, counted]
  simp only
  rw [kept]

/-- What can be read off a datagram with the key: its length, the last byte of the text behind its
vector, and bounds on the field that the text starts with. -/
structure Shaped (key : Block) (length : Nat) (padding : UInt8) (low high : Int)
    (datagram : List UInt8) : Prop where
  length : datagram.length = length
  padding : (text key datagram).getLast? = some padding
  low : low ≤ signedValue ((text key datagram).take 4)
  high : signedValue ((text key datagram).take 4) ≤ high

theorem shaped_iff {key : Block} (size : Nat) (field : 4 ≤ size) {low high : Int}
    {datagram : List UInt8} :
    Shaped key (sealedLength size) (UInt8.ofNat (Padding.paddedLength size - size)) low high datagram ↔
      ∃ plain, payload key datagram = .ok plain ∧ plain.length = size ∧
        low ≤ signedValue (plain.take 4) ∧ signedValue (plain.take 4) ≤ high := by
  have first (text : List UInt8) : (text.take size).take 4 = text.take 4 := by
    rw [List.take_take, Nat.min_eq_left field]
  have added : (UInt8.ofNat (Padding.paddedLength size - size)).toNat =
      Padding.paddedLength size - size := by
    rw [UInt8.toNat_ofNat', Padding.paddedLength]
    omega
  constructor
  · intro shaped
    have last : (text key datagram).getLastD 0 = UInt8.ofNat (Padding.paddedLength size - size) := by
      rw [List.getLastD_eq_getLast?, shaped.padding, Option.getD_some]
    have opens := payload_of_shape shaped.length (by rw [last, added])
    refine ⟨_, opens, ?_, ?_, ?_⟩
    · have length := shaped.length
      rw [sealedLength, Padding.paddedLength] at length
      rw [List.length_take, length_text key datagram (by omega)]
      omega
    · rw [first]
      exact shaped.low
    · rw [first]
      exact shaped.high
  · rintro ⟨plain, opens, rfl, low, high⟩
    obtain ⟨length, last, cut⟩ := shape_of_payload opens
    rw [cut, first] at low high
    refine ⟨length, ?_, low, high⟩
    have filled : text key datagram ≠ [] := by
      intro empty
      rw [empty, List.take_nil] at cut
      rw [cut, List.length_nil] at field
      omega
    rw [List.getLastD_eq_getLast?, List.getLast?_eq_some_getLast filled, Option.getD_some,
      ← added, UInt8.toNat_inj] at last
    rw [List.getLast?_eq_some_getLast filled, last]

theorem shaped_take_iff {key : Block} {length : Nat} (short : length < receiveLength)
    {padding : UInt8} {low high : Int} {datagram : List UInt8} :
    Shaped key length padding low high (datagram.take receiveLength) ↔
      Shaped key length padding low high datagram := by
  by_cases fits : datagram.length ≤ receiveLength
  · rw [List.take_of_length_le fits]
  · constructor
    · intro shaped
      have cut := shaped.length
      rw [List.length_take] at cut
      omega
    · intro shaped
      have whole := shaped.length
      omega

end Framer

/-- What a port accepts: packets with the record of a request whose first field is a port, and packets
with the code of a command. -/
def Worker.Accepts (key : Block) : Worker → List UInt8 → Prop
  | .control => Framer.Shaped key 48 4 1 65535
  | .command => Framer.Shaped key 32 12 0 3

theorem accepts_control_iff (key : Block) (datagram : List UInt8) :
    Worker.control.Accepts key datagram ↔
      ∃ plain, Framer.payload key datagram = .ok plain ∧ plain.length = 28 ∧
        1 ≤ signedValue (plain.take 4) ∧ signedValue (plain.take 4) ≤ 65535 :=
  Framer.shaped_iff 28 (by decide)

theorem accepts_command_iff (key : Block) (datagram : List UInt8) :
    Worker.command.Accepts key datagram ↔
      ∃ plain, Framer.payload key datagram = .ok plain ∧ plain.length = 4 ∧
        0 ≤ signedValue (plain.take 4) ∧ signedValue (plain.take 4) ≤ 3 :=
  Framer.shaped_iff 4 (by decide)

theorem not_accepts_of_undecodable {key : Block} {w : Worker} {datagram : List UInt8}
    (undecodable : Undecodable key w datagram) : ¬ w.Accepts key datagram := by
  cases undecodable with
  | unopenable closed =>
    intro accepts
    cases w with
    | control =>
      obtain ⟨plain, opens, -⟩ := (accepts_control_iff key datagram).mp accepts
      exact Framer.not_unopenable opens closed
    | command =>
      obtain ⟨plain, opens, -⟩ := (accepts_command_iff key datagram).mp accepts
      exact Framer.not_unopenable opens closed
  | requestLength opens wrong =>
    rw [accepts_control_iff]
    rintro ⟨plain, opens', length, -⟩
    cases opens.symm.trans opens'
    exact wrong length
  | clientPort opens length outside =>
    rw [accepts_control_iff]
    rintro ⟨plain, opens', -, low, high⟩
    cases opens.symm.trans opens'
    omega
  | commandLength opens wrong =>
    rw [accepts_command_iff]
    rintro ⟨plain, opens', length, -⟩
    cases opens.symm.trans opens'
    exact wrong length
  | unknownCommand opens length unknown =>
    rw [accepts_command_iff]
    rintro ⟨plain, opens', -, low, high⟩
    cases opens.symm.trans opens'
    rw [List.take_of_length_le (Nat.le_of_eq length)] at low high
    refine unknown ?_
    simp only [List.mem_cons, List.not_mem_nil, or_false]
    omega

theorem undecodable_of_not_accepts {key : Block} {w : Worker} {datagram : List UInt8}
    (refused : ¬ w.Accepts key datagram) : Undecodable key w datagram := by
  cases opens : Framer.payload key datagram with
  | error e => exact .unopenable ((Framer.payload_error_iff key datagram).mp ⟨e, opens⟩)
  | ok plain =>
    cases w with
    | control =>
      rw [accepts_control_iff] at refused
      by_cases length : plain.length = 28
      · by_cases outside : signedValue (plain.take 4) < 1 ∨ 65535 < signedValue (plain.take 4)
        · exact .clientPort opens length outside
        · exact absurd ⟨plain, opens, length, by omega, by omega⟩ refused
      · exact .requestLength opens length
    | command =>
      rw [accepts_command_iff] at refused
      by_cases length : plain.length = 4
      · refine .unknownCommand opens length fun known => ?_
        simp only [List.mem_cons, List.not_mem_nil, or_false] at known
        refine refused ⟨plain, opens, length, ?_⟩
        rw [List.take_of_length_le (Nat.le_of_eq length)]
        omega
      · exact .commandLength opens length

theorem undecodable_iff (key : Block) (w : Worker) (datagram : List UInt8) :
    Undecodable key w (datagram.take receiveLength) ↔ ¬ w.Accepts key datagram := by
  have uncut : w.Accepts key (datagram.take receiveLength) ↔ w.Accepts key datagram := by
    cases w with
    | control | command => exact Framer.shaped_take_iff (by decide)
  rw [← uncut]
  exact ⟨not_accepts_of_undecodable, undecodable_of_not_accepts⟩

theorem Handshake.read_ok_iff (packet : List UInt8) (s : Server σ) :
    (∃ asked left, read packet s = .ok asked left) ↔
      ¬ Undecodable s.control.framer.codec.key .control packet := by
  rw [← requestIn_error_iff, read_eq]
  cases requestIn s.control.framer.codec.key packet <;> simp

theorem Control.read_ok_iff (packet : List UInt8) (s : Server σ) :
    (∃ command left, read packet s = .ok command left) ↔
      ¬ Undecodable s.command.framer.codec.key .command packet := by
  rw [← commandIn_error_iff, read_eq]
  cases commandIn s.command.framer.codec.key packet <;> simp

theorem Report.ofResult_discarded_iff (r : EStateM.Result HandlerFault (Server σ) (Option OsError))
    (e : CodecError) :
    ofResult r = .discarded e ↔ ∃ left, r = .error (.failed (.decode e)) left := by
  constructor
  · intro discarded
    unfold ofResult at discarded
    split at discarded
    · cases discarded
    · cases discarded
      exact ⟨_, rfl⟩
    · cases discarded
    · cases discarded
  · rintro ⟨left, rfl⟩
    rfl

namespace Server

theorem discarded_iff (backend : Device σ) {key : Key} {s : Server σ} (sound : s.Sound key) {w : Worker}
    (running : s.running = true) (awake : (s.worker w).ended = false) (c : Circumstances)
    (datagram : List UInt8) (sender : SocketAddress) :
    (∃ e, (s.receive backend w c (.datagram datagram sender)).1 = .discarded e) ↔
      Undecodable key.block w (datagram.take receiveLength) := by
  have holds := ((sound_kept backend key).store w (datagram.take receiveLength) sound).worker w
  have decoding (left : Server σ) := handle_decode_iff backend w c (datagram.take receiveLength) sender
    (s.store w (datagram.take receiveLength)) left
  rw [holds] at decoding
  rw [receive_running backend running awake]
  simp only [Report.ofResult_discarded_iff]
  constructor
  · rintro ⟨e, left, refused⟩
    exact ((decoding left).mp ⟨e, refused⟩).1
  · intro undecodable
    obtain ⟨e, refused⟩ := (decoding _).mpr ⟨undecodable, rfl⟩
    exact ⟨e, _, refused⟩

/-- At every point of a run a port reads a datagram of any length, cut to the receive buffer, if and only
if the datagram has the shape that the port accepts. A worker discards all others; they change nothing
but what the worker keeps of datagrams, and nothing is sent for them. -/
theorem accepts_exactly {backend : Device σ} {config : Config} {device : σ} {commandPort : UInt16}
    {ivs : IvSource} {setup : Setup} {s : Server σ}
    (started : start backend config device commandPort ivs setup = .ok s) (events : List Event) :
    let t := s.run backend events
    ∀ datagram, let received := datagram.take receiveLength
      ((∃ asked left, Handshake.read received (t.store .control received) = .ok asked left) ↔
        Worker.control.Accepts s.key.block datagram) ∧
      ((∃ command left, Control.read received (t.store .command received) = .ok command left) ↔
        Worker.command.Accepts s.key.block datagram) ∧
      ∀ (w : Worker) (c : Circumstances) (sender : SocketAddress),
        let turn := t.receive backend w c (.datagram datagram sender)
        (t.running = true → (t.worker w).ended = false →
          ((∃ e, turn.1 = .discarded e) ↔ ¬ w.Accepts s.key.block datagram)) ∧
        (¬ w.Accepts s.key.block datagram → turn.2.Alike t ∧ turn.2.sent = t.sent) := by
  intro t datagram received
  have sound : t.Sound s.key := (sound_kept backend s.key).run events (sound_of_start started)
  have stored (w : Worker) : (t.store w received).Sound s.key :=
    (sound_kept backend s.key).store w received sound
  refine ⟨?_, ?_, fun w c sender => ⟨fun running awake => ?_, fun refused => ?_⟩⟩
  · rw [Handshake.read_ok_iff, (stored .control).control, undecodable_iff, Classical.not_not]
  · rw [Control.read_ok_iff, (stored .command).command, undecodable_iff, Classical.not_not]
  · rw [discarded_iff backend sound running awake, undecodable_iff]
  · have noise : Noise s.key.block (.arrival w c (.datagram datagram sender)) :=
      .undecodable ((undecodable_iff s.key.block w datagram).mpr refused)
    have quiet := step_noise backend sound noise
    exact ⟨quiet, quiet.sent⟩

/-- A request that is accepted, and the same request with bytes behind it. -/
theorem accepts_exactly_standard_tone :
    let key := Standard.key
    let server := Standard.server Tone.device .standard
    let sender := Standard.client
    let longer := Standard.request ++ List.replicate 9000 4
    start Tone.device Standard.config .standard 5541 (.seeded default) {} = .ok server ∧
      Worker.control.Accepts key.block Standard.request ∧ ¬ Worker.control.Accepts key.block longer ∧
      server.running = true ∧ (server.worker .control).ended = false ∧
      ∃ e left, server.receive Tone.device .control {} (.datagram longer sender) = (.discarded e, left) ∧
        left.Alike server ∧ left.sent = server.sent := by
  intro key server sender longer
  have started : start Tone.device Standard.config .standard 5541 (.seeded default) {} = .ok server :=
    Standard.start ..
  have accepted : Worker.control.Accepts key.block Standard.request :=
    (accepts_control_iff key.block Standard.request).mpr
      ⟨_, Framer.payload_sealed .., Settings.length_encode _, by decide, by decide⟩
  have refused : ¬ Worker.control.Accepts key.block longer := by
    intro shaped
    have length := shaped.length
    rw [List.length_append, List.length_replicate] at length
    omega
  -- Said of any datagram, so that no cipher text has to be computed.
  have rejects (datagram : List UInt8) (refused : ¬ Worker.control.Accepts key.block datagram) :
      ∃ e left, server.receive Tone.device .control {} (.datagram datagram sender) = (.discarded e, left) ∧
        left.Alike server ∧ left.sent = server.sent := by
    have turned := (accepts_exactly started [] datagram).2.2 .control {} sender
    obtain ⟨e, discarded⟩ := (turned.1 rfl rfl).mpr refused
    exact ⟨e, _, Prod.ext discarded rfl, turned.2 refused⟩
  exact ⟨started, accepted, refused, rfl, rfl, rejects longer refused⟩

end Server

end PairedAudio
