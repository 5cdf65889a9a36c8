import PairedAudio.Proofs.Refusal

/-! What a framer has done before does not show in its packets.

From one call to the next a framer keeps its key, which no call changes, and the vector that the last
call may have left armed, which no call reads. So a packet opens at every end that holds the key, what
does not open is refused in the same way everywhere, and a handler that has read its datagram can
always seal its reply.
-/

set_option autoImplicit false

namespace PairedAudio

open Capture (Device)
open Cipher (Block IvSource Key)

namespace Framer

inductive Call
  | encode (plain : List UInt8)
  | encodeInto (plain buffer : List UInt8)
  | decode (packet : List UInt8)
  | decodeInPlace (buffer : List UInt8)

def outcome {α : Type} : EStateM.Result CodecError Framer α → Except CodecError α
  | .ok value _ => .ok value
  | .error e _ => .error e

def left {α : Type} : EStateM.Result CodecError Framer α → Framer
  | .ok _ framer | .error _ framer => framer

section Opening

variable (framer : Framer) (packet : List UInt8)

theorem outcome_decode : outcome (decode packet framer) = payload framer.codec.key packet := by
  rw [decode_eq]
  cases payload framer.codec.key packet <;> rfl

theorem outcome_decodeInPlace :
    outcome (framer.decodeInPlace packet).1 = payload framer.codec.key packet := by
  rw [decodeInPlace_fst]
  cases payload framer.codec.key packet <;> rfl

theorem left_decode : left (decode packet framer) = framer.afterOpening packet := by
  rw [decode_eq]
  cases payload framer.codec.key packet <;> rfl

theorem left_decodeInPlace : left (framer.decodeInPlace packet).1 = framer.afterOpening packet := by
  rw [decodeInPlace_fst]
  cases payload framer.codec.key packet <;> rfl

end Opening

end Framer

/-- One end of a connection: a framer, and the supply that it draws its vectors from. -/
structure Endpoint where
  framer : Framer
  ivs : IvSource

namespace Endpoint

open Framer (Call sealedLength)

def fresh (key : Key) (ivs : IvSource) : Endpoint := ⟨.ofKey key, ivs⟩

def perform (endpoint : Endpoint) : Call → Endpoint
  | .encode plain =>
    let result := endpoint.framer.encode plain endpoint.ivs
    ⟨result.framer, result.ivs⟩
  | .encodeInto plain buffer =>
    let result := (endpoint.framer.encodeInto plain buffer endpoint.ivs).1
    ⟨result.framer, result.ivs⟩
  | .decode packet => ⟨Framer.left (Framer.decode packet endpoint.framer), endpoint.ivs⟩
  | .decodeInPlace buffer => ⟨Framer.left (endpoint.framer.decodeInPlace buffer).1, endpoint.ivs⟩

def after (endpoint : Endpoint) : List Call → Endpoint
  | [] => endpoint
  | call :: rest => (endpoint.perform call).after rest

theorem perform_key (endpoint : Endpoint) (call : Call) :
    (endpoint.perform call).framer.codec.key = endpoint.framer.codec.key := by
  cases call with
  | encode plain => rfl
  | encodeInto plain buffer =>
    rw [perform, Framer.encodeInto_eq]
    split <;> rfl
  | decode packet => rw [perform, Framer.left_decode, Framer.afterOpening_key]
  | decodeInPlace buffer => rw [perform, Framer.left_decodeInPlace, Framer.afterOpening_key]

theorem after_key (endpoint : Endpoint) (calls : List Call) :
    (endpoint.after calls).framer.codec.key = endpoint.framer.codec.key := by
  induction calls generalizing endpoint with
  | nil => rfl
  | cons call rest ih => rw [after, ih, perform_key]

theorem fresh_after_key (key : Key) (ivs : IvSource) (calls : List Call) :
    ((fresh key ivs).after calls).framer.codec.key = key.block := after_key ..

theorem encodeInto_error_iff (endpoint : Endpoint) (plain buffer : List UInt8) :
    (∃ e, (endpoint.framer.encodeInto plain buffer endpoint.ivs).1.outcome = .error e) ↔
      buffer.length < sealedLength plain.length := by
  rw [Framer.encodeInto_eq]
  by_cases small : buffer.length < sealedLength plain.length
  · rw [if_pos small]
    exact ⟨fun _ => small, fun _ => ⟨_, rfl⟩⟩
  · rw [if_neg small]
    constructor
    · rintro ⟨e, refused⟩
      cases refused
    · exact fun short => absurd short small

/-- Between two ends with one key, each after any calls: every payload can be sealed, and opens as
itself at the other end. An end opens a datagram, or refuses it, as a fresh one does, and refuses to
seal only into a buffer that is too small. So the handlers of datagrams never fail to seal; the only
errors of decoding in them are those of the datagram itself, before the server has changed. -/
theorem opens_after_any_history (key : Key) (ivs ivs' : IvSource) (calls calls' : List Call) :
    let sender := (fresh key ivs).after calls
    let receiver := (fresh key ivs').after calls'
    (∀ plain, ∃ packet, (sender.framer.encode plain sender.ivs).outcome = .ok packet ∧
      packet.length = sealedLength plain.length ∧
      Framer.outcome (Framer.decode packet receiver.framer) = .ok plain) ∧
    (∀ datagram, Framer.outcome (Framer.decode datagram receiver.framer) =
        Framer.outcome (Framer.decode datagram (.ofKey key)) ∧
      Framer.outcome (receiver.framer.decodeInPlace datagram).1 =
        Framer.outcome (Framer.decode datagram (.ofKey key))) ∧
    (∀ plain buffer, (∃ e, (sender.framer.encodeInto plain buffer sender.ivs).1.outcome = .error e) ↔
      buffer.length < sealedLength plain.length) ∧
    ∀ {σ : Type} (backend : Device σ) (w : Worker) (s : Server σ),
      (∀ plain, ∃ packet left, Handler.sealPacket w plain s = .ok packet left) ∧
      ∀ c datagram sender left,
        (∃ e, Server.handle backend w c datagram sender s = .error (.failed (.decode e)) left) ↔
          Undecodable (s.worker w).framer.codec.key w datagram ∧ left = s.opened w datagram := by
  intro sender receiver
  have sends : sender.framer.codec.key = key.block := fresh_after_key key ivs calls
  have receives : receiver.framer.codec.key = key.block := fresh_after_key key ivs' calls'
  have fresh : (Framer.ofKey key).codec.key = key.block := rfl
  refine ⟨fun plain => ?_, fun datagram => ?_, fun plain buffer => ?_, fun backend w s => ⟨?_, ?_⟩⟩
  · refine ⟨_, congrArg Framer.Sealed.outcome (Framer.encode_eq ..), Framer.length_sealed .., ?_⟩
    rw [Framer.outcome_decode, receives, sends, Framer.payload_sealed]
  · rw [Framer.outcome_decode, Framer.outcome_decodeInPlace, Framer.outcome_decode, receives, fresh]
    exact ⟨rfl, rfl⟩
  · exact sender.encodeInto_error_iff plain buffer
  · exact fun plain => ⟨_, _, Handler.sealPacket_eq w plain s⟩
  · exact fun c datagram sender left => Server.handle_decode_iff backend w c datagram sender s left

end Endpoint

end PairedAudio
