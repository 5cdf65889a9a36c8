import PairedAudio.Proofs.Handlers

/-! The datagrams that a worker cannot decode, described by their bytes, and that these are the ones
which the two handlers refuse to read.

Nothing else that a handler does ends with an error of decoding: once a datagram has been read, all
that can fail is the backend and the network.
-/

set_option autoImplicit false

namespace PairedAudio

open Capture (Device Fault)
open Cipher
open Wire

variable {σ : Type}

namespace Wire

theorem toInt_ofInt_signedValue {bytes : List UInt8} (length : bytes.length = 4) :
    (Int32.ofInt (signedValue bytes)).toInt = signedValue bytes := by
  rw [signedValue, length, Int32.toInt_ofInt]
  exact Int.bmod_bmod

theorem Command.code_of_ofCode {code : Int32} {command : Command} (known : ofCode code = .ok command) :
    code = command.code := by
  unfold ofCode at known
  split at known
  · cases known
    assumption
  split at known
  · cases known
    assumption
  split at known
  · cases known
    assumption
  split at known
  · cases known
    assumption
  · cases known

theorem Command.ofCode_error_iff (code : Int32) :
    (∃ e, ofCode code = .error e) ↔ code.toInt ∉ ([0, 1, 2, 3] : List Int) := by
  constructor
  · rintro ⟨e, refused⟩ known
    have listed : code ∈ ([0, 1, 2, 3] : List Int32) := by
      rw [← code.ofInt_toInt]
      exact List.mem_map_of_mem (f := Int32.ofInt) known
    simp only [List.mem_cons, List.not_mem_nil, or_false] at listed
    rcases listed with rfl | rfl | rfl | rfl <;> cases refused
  · intro unknown
    cases known : ofCode code with
    | error e => exact ⟨e, rfl⟩
    | ok command =>
      rw [code_of_ofCode known] at unknown
      cases command <;> exact absurd (by decide) unknown

theorem Settings.audioPort_error_iff (s : Settings) :
    (∃ e, s.audioPort = .error e) ↔ s.clientPort.toInt < 1 ∨ 65535 < s.clientPort.toInt := by
  simp only [audioPort]
  constructor
  · rintro ⟨e, refused⟩
    split at refused
    · cases refused
    · omega
  · intro outside
    rw [if_neg (by omega)]
    exact ⟨_, rfl⟩

theorem Settings.decode_of_length {plain : List UInt8} (length : plain.length = 28) :
    ∃ s, decode plain = .ok s ∧ s.clientPort.toInt = signedValue (plain.take 4) := by
  rw [decode, wireLength, if_pos length]
  refine ⟨_, rfl, ?_⟩
  exact toInt_ofInt_signedValue (by rw [List.drop_zero, List.length_take, length]; rfl)

end Wire

theorem Cipher.Padding.count?_error_iff {padded : List UInt8} (block : 16 ≤ padded.length) :
    (∃ last, count? padded = .error last) ↔
      padded.getLastD 0 = 0 ∨ 16 < (padded.getLastD 0).toNat := by
  simp only [count?]
  constructor
  · rintro ⟨last, refused⟩
    split at refused
    · rename_i bad
      rcases bad with zero | large | longer
      · exact .inl zero
      · exact .inr large
      · exact .inr (by omega)
    · cases refused
  · intro bad
    rw [if_pos (bad.imp_right .inl)]
    exact ⟨_, rfl⟩

inductive Framer.Unopenable (key : Block) (packet : List UInt8) : Prop where
  | short (short : packet.length < 17)
  | unaligned (unaligned : (packet.length - 16) % 16 ≠ 0)
  | badPadding {last : UInt8}
      (ends : (Codec.paddedText key (vector packet) (packet.drop 16)).getLastD 0 = last)
      (bad : last = 0 ∨ 16 < last.toNat)

inductive Undecodable (key : Block) : Worker → List UInt8 → Prop
  | unopenable {w : Worker} {packet : List UInt8} (closed : Framer.Unopenable key packet) :
      Undecodable key w packet
  | requestLength {packet plain : List UInt8} (opens : Framer.payload key packet = .ok plain)
      (wrong : plain.length ≠ 28) : Undecodable key .control packet
  | clientPort {packet plain : List UInt8} (opens : Framer.payload key packet = .ok plain)
      (length : plain.length = 28)
      (outside : signedValue (plain.take 4) < 1 ∨ 65535 < signedValue (plain.take 4)) :
      Undecodable key .control packet
  | commandLength {packet plain : List UInt8} (opens : Framer.payload key packet = .ok plain)
      (wrong : plain.length ≠ 4) : Undecodable key .command packet
  | unknownCommand {packet plain : List UInt8} (opens : Framer.payload key packet = .ok plain)
      (length : plain.length = 4) (unknown : signedValue plain ∉ ([0, 1, 2, 3] : List Int)) :
      Undecodable key .command packet

theorem Framer.payload_error_iff (key : Block) (packet : List UInt8) :
    (∃ e, payload key packet = .error e) ↔ Unopenable key packet := by
  -- The length is looked at first, then the alignment, and the padding of whole blocks only.
  by_cases short : packet.length < 17
  · have refused : payload key packet = .error (.malformed (.shortDatagram packet.length)) := by
      simp only [payload, minimumLength, if_pos short]
    exact ⟨fun _ => .short short, fun _ => ⟨_, refused⟩⟩
  have length : (packet.drop 16).length = packet.length - 16 := List.length_drop
  by_cases whole : (packet.length - 16) % 16 = 0
  · have aligned : Codec.isAligned (packet.drop 16) = true := by
      rw [Codec.isAligned_iff, length]
      omega
    have block : 16 ≤ (Codec.paddedText key (vector packet) (packet.drop 16)).length := by
      rw [Codec.length_paddedText key _ (by rw [length, whole]), length]
      omega
    have counting := Padding.count?_error_iff block
    simp only [payload, minimumLength, if_neg short, if_pos aligned]
    cases counted : Padding.count? (Codec.paddedText key (vector packet) (packet.drop 16)) with
    | error last => exact ⟨fun _ => .badPadding rfl (counting.mp ⟨last, counted⟩), fun _ => ⟨_, rfl⟩⟩
    | ok count =>
      constructor
      · rintro ⟨e, refused⟩
        cases refused
      · intro closed
        cases closed with
        | short tooShort => exact absurd tooShort short
        | unaligned broken => exact absurd whole broken
        | badPadding ends bad =>
          obtain ⟨last, refused⟩ := counting.mpr (ends ▸ bad)
          rw [counted] at refused
          cases refused
  · have broken : ¬ Codec.isAligned (packet.drop 16) = true := by
      rw [Codec.isAligned_iff, length]
      omega
    have refused : payload key packet =
        .error (.malformed (.unalignedCiphertext (packet.drop 16).length)) := by
      simp only [payload, minimumLength, if_neg short, if_neg broken]
    exact ⟨fun _ => .unaligned whole, fun _ => ⟨_, refused⟩⟩

theorem Framer.not_unopenable {key : Block} {packet plain : List UInt8}
    (opens : payload key packet = .ok plain) : ¬ Unopenable key packet := by
  intro closed
  obtain ⟨e, refused⟩ := (payload_error_iff key packet).mpr closed
  cases opens.symm.trans refused

theorem Handshake.requestIn_error_iff (key : Block) (packet : List UInt8) :
    (∃ e, requestIn key packet = .error e) ↔ Undecodable key .control packet := by
  unfold requestIn
  cases opens : Framer.payload key packet with
  | error e =>
    have closed := (Framer.payload_error_iff key packet).mp ⟨e, opens⟩
    exact ⟨fun _ => .unopenable closed, fun _ => ⟨e, rfl⟩⟩
  | ok plain =>
    simp only [bind, Except.bind]
    by_cases length : plain.length = 28
    · obtain ⟨request, decoded, port⟩ := Settings.decode_of_length length
      have range := request.audioPort_error_iff
      rw [port] at range
      simp only [decoded]
      cases asked : request.audioPort with
      | error e => exact ⟨fun _ => .clientPort opens length (range.mp ⟨e, asked⟩), fun _ => ⟨e, rfl⟩⟩
      | ok value =>
        constructor
        · rintro ⟨e, refused⟩
          cases refused
        · intro undecodable
          cases undecodable with
          | unopenable closed => exact absurd closed (Framer.not_unopenable opens)
          | requestLength opens' wrong =>
            cases opens.symm.trans opens'
            exact absurd length wrong
          | clientPort opens' _ outside =>
            cases opens.symm.trans opens'
            obtain ⟨e, refused⟩ := range.mpr outside
            cases asked.symm.trans refused
    · have refused : Settings.decode plain = .error (.malformed (.settingsLength plain.length)) :=
        if_neg length
      rw [refused]
      exact ⟨fun _ => .requestLength opens length, fun _ => ⟨_, rfl⟩⟩

theorem Control.commandIn_error_iff (key : Block) (packet : List UInt8) :
    (∃ e, commandIn key packet = .error e) ↔ Undecodable key .command packet := by
  unfold commandIn
  cases opens : Framer.payload key packet with
  | error e =>
    have closed := (Framer.payload_error_iff key packet).mp ⟨e, opens⟩
    exact ⟨fun _ => .unopenable closed, fun _ => ⟨e, rfl⟩⟩
  | ok plain =>
    simp only [bind, Except.bind]
    by_cases length : plain.length = 4
    · have known := Command.ofCode_error_iff (Int32.ofInt (signedValue plain))
      rw [toInt_ofInt_signedValue length] at known
      rw [Command.decode, if_pos length, known]
      constructor
      · exact fun unknown => .unknownCommand opens length unknown
      · intro undecodable
        cases undecodable with
        | unopenable closed => exact absurd closed (Framer.not_unopenable opens)
        | commandLength opens' wrong =>
          cases opens.symm.trans opens'
          exact absurd length wrong
        | unknownCommand opens' _ unknown =>
          cases opens.symm.trans opens'
          exact unknown
    · have refused : Command.decode plain = .error (.malformed (.commandLength plain.length)) :=
        if_neg length
      rw [refused]
      exact ⟨fun _ => .commandLength opens length, fun _ => ⟨_, rfl⟩⟩

theorem HandlerFault.ofFault_ne_decode (fault : Fault) (e : CodecError) :
    ofFault fault ≠ .failed (.decode e) := by
  cases fault <;> nofun

theorem Handshake.Ends.ne_decode {backend : Device σ} {c : Circumstances} {request : Settings}
    {port : UInt16} {sender : SocketAddress} {s : Server σ}
    {r : EStateM.Result HandlerFault (Server σ) Unit} (ends : Ends backend c request port sender s r)
    (e : CodecError) (left : Server σ) : r ≠ .error (.failed (.decode e)) left := by
  intro same
  cases ends with
  | unprepared | unstarted =>
    injection same with fault
    exact HandlerFault.ofFault_ne_decode _ e fault
  | unanswerable | unsent | unconnected | paired => cases same

theorem Control.Ends.ne_decode {backend : Device σ} {c : Circumstances} {command : Command}
    {sender : SocketAddress} {s : Server σ}
    {r : EStateM.Result HandlerFault (Server σ) (Option OsError)}
    (ends : Ends backend c command sender s r) (e : CodecError) (left : Server σ) :
    r ≠ .error (.failed (.decode e)) left := by
  intro same
  cases ends with
  | failed carried =>
    cases carried with
    | unswitched =>
      injection same with fault
      exact HandlerFault.ofFault_ne_decode _ e fault
  | acknowledged | silenced => cases same

namespace Server

theorem handle_undecodable (backend : Device σ) (c : Circumstances) (sender : SocketAddress)
    {key : Block} {w : Worker} {packet : List UInt8} {s : Server σ}
    (holds : (s.worker w).framer.codec.key = key) (undecodable : Undecodable key w packet) :
    ∃ e, handle backend w c packet sender s = .error (.failed (.decode e)) (s.opened w packet) := by
  subst holds
  cases w with
  | control =>
    obtain ⟨e, unread⟩ := (Handshake.requestIn_error_iff _ packet).mpr undecodable
    exact ⟨e, Handler.bind_error (Handshake.handle_unread unread)⟩
  | command =>
    obtain ⟨e, unread⟩ := (Control.commandIn_error_iff _ packet).mpr undecodable
    exact ⟨e, Control.handle_unread unread⟩

theorem handshake_of_handle_error {backend : Device σ} {c : Circumstances} {packet : List UInt8}
    {sender : SocketAddress} {s left : Server σ} {fault : HandlerFault}
    (failed : handle backend .control c packet sender s = .error fault left) :
    Handshake.handle backend c packet sender s = .error fault left := by
  simp only [handle, bind, EStateM.bind, pure, EStateM.pure] at failed
  cases result : Handshake.handle backend c packet sender s with
  | ok done t =>
    rw [result] at failed
    cases failed
  | error other t =>
    rw [result] at failed
    cases failed
    rfl

/-- An error of decoding is always that of the datagram, and leaves all but the worker's own framer and
buffer as it was. -/
theorem handle_decode_iff (backend : Device σ) (w : Worker) (c : Circumstances) (packet : List UInt8)
    (sender : SocketAddress) (s left : Server σ) :
    (∃ e, handle backend w c packet sender s = .error (.failed (.decode e)) left) ↔
      Undecodable (s.worker w).framer.codec.key w packet ∧ left = s.opened w packet := by
  constructor
  · rintro ⟨e, refused⟩
    have undecodable : Undecodable (s.worker w).framer.codec.key w packet := by
      cases w with
      | control =>
        refine (Handshake.requestIn_error_iff _ packet).mp ?_
        cases asked : Handshake.requestIn s.control.framer.codec.key packet with
        | error unread => exact ⟨unread, asked⟩
        | ok found =>
          have failed := handshake_of_handle_error refused
          rw [Handshake.handle_read asked] at failed
          exact absurd failed ((Handshake.pair_ends ..).ne_decode e left)
      | command =>
        refine (Control.commandIn_error_iff _ packet).mp ?_
        cases asked : Control.commandIn s.command.framer.codec.key packet with
        | error unread => exact ⟨unread, asked⟩
        | ok command => exact absurd refused ((Control.handle_ends asked).ne_decode e left)
    obtain ⟨e', opened⟩ := handle_undecodable backend c sender rfl undecodable
    cases opened.symm.trans refused
    exact ⟨undecodable, rfl⟩
  · rintro ⟨undecodable, rfl⟩
    exact handle_undecodable backend c sender rfl undecodable

end Server

end PairedAudio
