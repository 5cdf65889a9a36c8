import PairedAudio.Proofs.Run

/-! Every chunk that fits a datagram is sent once, and nothing else is.

The scratch buffer of the audio path is written over and over, but a packet takes only as many bytes
from its front as it has just written there. So a chunk's packet is a function of the key, the chunk and
the vector drawn for it, and what earlier chunks left behind never reaches the network.
-/

set_option autoImplicit false

namespace PairedAudio

open Capture (Device)
open Cipher (IvSource Key)
open Framer (sealedLength)

variable {σ : Type}

/-- The longest chunk that fits a datagram when it is sealed. -/
def longestChunk : Nat := 65487

theorem sealedLength_le_iff (n : Nat) : sealedLength n ≤ maximumDatagram ↔ n ≤ longestChunk := by
  unfold sealedLength Cipher.Padding.paddedLength maximumDatagram longestChunk
  omega

/-- What a socket makes of a packet that it is asked to send. -/
abbrev Socket (σ : Type) := List UInt8 → Server σ → ChunkReport × Server σ

def Event.heard (destination : Option SocketAddress) : Event → List (SocketAddress × List UInt8)
  | .chunk none bytes =>
    if bytes.length ≤ longestChunk then destination.toList.map (·, bytes) else []
  | .chunk (some _) _ | .arrival .. | .shutdown => []

namespace Server

def emitTo (socket : Socket σ) (chunk : List UInt8) (s : Server σ) : ChunkReport × Server σ :=
  match s.sealChunk chunk with
  | (.error e, s) => (.dropped e, s)
  | (.ok packet, s) => socket packet s

theorem emit_eq_emitTo (send : Option OsError) (chunk : List UInt8) (s : Server σ) :
    s.emit send chunk = s.emitTo (transmit send) chunk := rfl

def chunkPacket (chunk : List UInt8) (s : Server σ) : List UInt8 :=
  Framer.sealed s.audio.framer.codec.key s.ivs.draw.1 chunk

def chunkSealed (chunk : List UInt8) (s : Server σ) : Server σ :=
  { s with
    audio := {
      framer := s.audio.framer.disarmed
      scratch := s.chunkPacket chunk ++ s.audio.scratch.drop (sealedLength chunk.length) }
    ivs := s.ivs.draw.2 }

def Roomy (s : Server σ) : Prop := s.audio.scratch.length = maximumDatagram

theorem length_chunkPacket (chunk : List UInt8) (s : Server σ) :
    (s.chunkPacket chunk).length = sealedLength chunk.length := Framer.length_sealed ..

theorem sealChunk_eq {s : Server σ} (room : s.Roomy) (chunk : List UInt8) :
    s.sealChunk chunk =
      if chunk.length ≤ longestChunk then (.ok (s.chunkPacket chunk), s.chunkSealed chunk)
      else (.error (.bufferTooSmall (sealedLength chunk.length) maximumDatagram), s) := by
  unfold sealChunk
  rw [Framer.encodeInto_eq, room]
  by_cases fits : chunk.length ≤ longestChunk
  · have enough : ¬ maximumDatagram < sealedLength chunk.length :=
      Nat.not_lt.mpr ((sealedLength_le_iff _).mpr fits)
    -- The packet is cut off where the bytes of longer ones before it may still lie.
    have cut : (s.chunkPacket chunk ++ s.audio.scratch.drop (sealedLength chunk.length)).take
        (sealedLength chunk.length) = s.chunkPacket chunk :=
      List.take_left' (s.length_chunkPacket chunk)
    rw [if_neg enough, if_pos fits]
    simp only [Except.map, Prod.mk.injEq, Except.ok.injEq]
    exact ⟨cut, rfl⟩
  · have tooLong : maximumDatagram < sealedLength chunk.length :=
      Nat.not_le.mp fun enough => fits ((sealedLength_le_iff _).mp enough)
    rw [if_pos tooLong, if_neg fits]
    rfl

theorem roomy_chunkSealed {s : Server σ} (room : s.Roomy) {chunk : List UInt8}
    (fits : chunk.length ≤ longestChunk) : (s.chunkSealed chunk).Roomy := by
  have enough := (sealedLength_le_iff _).mpr fits
  rw [Roomy, chunkSealed, List.length_append, length_chunkPacket, List.length_drop, room]
  omega

/-- The socket is asked once, whatever it is, if the chunk fits, and else not at all. -/
theorem emitTo_eq {s : Server σ} (room : s.Roomy) (socket : Socket σ) (chunk : List UInt8) :
    s.emitTo socket chunk =
      if chunk.length ≤ longestChunk then socket (s.chunkPacket chunk) (s.chunkSealed chunk)
      else (.dropped (.bufferTooSmall (sealedLength chunk.length) maximumDatagram), s) := by
  unfold emitTo
  rw [sealChunk_eq room]
  by_cases fits : chunk.length ≤ longestChunk
  · simp only [if_pos fits]
  · simp only [if_neg fits]

theorem emit_eq {s : Server σ} (room : s.Roomy) (send : Option OsError) (chunk : List UInt8) :
    s.emit send chunk =
      if chunk.length ≤ longestChunk then (s.chunkSealed chunk).transmit send (s.chunkPacket chunk)
      else (.dropped (.bufferTooSmall (sealedLength chunk.length) maximumDatagram), s) :=
  (emit_eq_emitTo send chunk s).trans (emitTo_eq room _ chunk)

theorem transmit_aimed {s : Server σ} {client : SocketAddress}
    (aimed : s.pairing.destination = some client) (packet : List UInt8) :
    s.transmit none packet =
      (.sent ⟨client, packet⟩, { s with sent := s.sent ++ [⟨client, packet⟩] }) := by
  simp only [transmit, aimed]

theorem transmit_lost {s : Server σ} {send : Option OsError}
    (lost : s.pairing.destination = none ∨ send ≠ none) (packet : List UInt8) :
    s.transmit send packet = (.lost, s) := by
  unfold transmit
  split
  · rename_i client aimed
    rcases lost with nowhere | failed
    · cases aimed.symm.trans nowhere
    · exact absurd rfl failed
  · rfl

theorem exists_transmit_eq (send : Option OsError) (destination : Option SocketAddress) :
    ∃ recipient : Option SocketAddress, ∀ packet (s : Server σ), s.pairing.destination = destination →
      (s.transmit send packet).2 = { s with sent := s.sent ++ recipient.toList.map (⟨·, packet⟩) } := by
  cases destination with
  | none =>
    refine ⟨none, fun packet s aimed => ?_⟩
    rw [transmit_lost (.inl aimed), Option.toList_none, List.map_nil, List.append_nil]
  | some client =>
    cases send with
    | some e =>
      refine ⟨none, fun packet s aimed => ?_⟩
      rw [transmit_lost (.inr (Option.some_ne_none e)), Option.toList_none, List.map_nil, List.append_nil]
    | none => exact ⟨some client, fun packet s aimed => by rw [transmit_aimed aimed]; rfl⟩

theorem roomy_kept (backend : Device σ) : Kept backend (Roomy (σ := σ)) where
  store w bytes s room := by rwa [Roomy, store, setWorker_audio]
  opened w packet s room := by rwa [Roomy, opened, setWorker_audio]
  ended w s room := by
    have same : (s.endWorker w).audio = s.audio := setWorker_audio ..
    rwa [Roomy, same]
  handshake := by
    intro c request port sender s r ends room
    cases ends <;> exact room
  command := by
    intro c command sender s r ends room
    cases ends with
    | failed carried | acknowledged carried | silenced carried => cases carried <;> exact room
  chunk send bytes s room := by
    rw [emit_eq room]
    split
    · rename_i fits
      have sealing := roomy_chunkSealed room fits
      obtain ⟨recipient, transmits⟩ := exists_transmit_eq send s.pairing.destination
      rwa [transmits _ (s.chunkSealed bytes) rfl]
    · exact room
  halt room := room
  closed room := room

theorem roomy_of_start {backend : Device σ} {config : Config} {device : σ} {commandPort : UInt16}
    {ivs : IvSource} {setup : Setup} {s : Server σ}
    (started : start backend config device commandPort ivs setup = .ok s) : s.Roomy := by
  obtain ⟨key, -, rfl⟩ := eq_initial_of_start started
  exact List.length_replicate

def streamedBy (backend : Device σ) (s : Server σ) : Event → List Datagram
  | .chunk send bytes => (s.step backend (.chunk send bytes)).sent.drop s.sent.length
  | .arrival .. | .shutdown => []

/-- The datagrams that the audio path sends in a run, in order. -/
def streamed (backend : Device σ) (s : Server σ) : List Event → List Datagram
  | [] => []
  | event :: rest => s.streamedBy backend event ++ (s.step backend event).streamed backend rest

/-- The chunks that the clients of a run get to hear, in order. -/
def heard (backend : Device σ) (s : Server σ) : List Event → List (SocketAddress × List UInt8)
  | [] => []
  | event :: rest =>
    event.heard s.pairing.destination ++ (s.step backend event).heard backend rest

theorem decode_chunkPacket {key : Key} {s : Server σ} (sound : s.Sound key) (chunk : List UInt8) :
    Framer.decode (s.chunkPacket chunk) (.ofKey key) = .ok chunk (.ofKey key) := by
  refine Framer.decode_of_payload ?_
  rw [chunkPacket, sound.audio]
  exact Framer.payload_sealed ..

theorem streamedBy_chunk {s : Server σ} (room : s.Roomy) (backend : Device σ) (send : Option OsError)
    (chunk : List UInt8) :
    s.streamedBy backend (.chunk send chunk) =
      ((Event.chunk send chunk).heard s.pairing.destination).map (⟨·.1, s.chunkPacket chunk⟩) := by
  change (s.emit send chunk).2.sent.drop s.sent.length = _
  rw [emit_eq room]
  by_cases fits : chunk.length ≤ longestChunk
  · rw [if_pos fits]
    cases send with
    | some e =>
      rw [transmit_lost (.inr (Option.some_ne_none e))]
      exact List.drop_length
    | none =>
      simp only [Event.heard, if_pos fits]
      cases aimed : s.pairing.destination with
      | none =>
        rw [transmit_lost (s := s.chunkSealed chunk) (.inl aimed)]
        exact List.drop_length
      | some client =>
        rw [transmit_aimed (s := s.chunkSealed chunk) aimed]
        exact List.drop_left
  · rw [if_neg fits, List.drop_length]
    cases send with
    | some e => rfl
    | none => simp only [Event.heard, if_neg fits, List.map_nil]

theorem streamed_eq (backend : Device σ) {key : Key} {s : Server σ} (sound : s.Sound key)
    (room : s.Roomy) (events : List Event) :
    (s.streamed backend events).map (fun d =>
        (d.recipient, d.bytes.length, Framer.decode d.bytes (.ofKey key))) =
      (s.heard backend events).map fun h =>
        (h.1, sealedLength h.2.length, .ok h.2 (.ofKey key)) := by
  -- Over the events, for every sound server with room: what an event leaves is such a server again.
  induction events generalizing s with
  | nil => rfl
  | cons event rest ih =>
    have later := ih ((sound_kept backend key).step event sound) ((roomy_kept backend).step event room)
    rw [streamed, heard, List.map_append, List.map_append, later]
    congr 1
    cases event with
    | arrival | shutdown => rfl
    | chunk send chunk =>
      rw [streamedBy_chunk room, List.map_map]
      refine List.map_congr_left fun h present => ?_
      have same : h.2 = chunk := by
        cases send with
        | some e => cases present
        | none =>
          simp only [Event.heard] at present
          split at present
          · obtain ⟨client, -, rfl⟩ := List.mem_map.mp present
            rfl
          · cases present
      rw [same, Function.comp_apply, length_chunkPacket, decode_chunkPacket sound]

theorem heard_of_aimed (backend : Device σ) {client : SocketAddress} {s : Server σ}
    (aimed : s.pairing.destination = some client) (chunks : List (Option OsError × List UInt8)) :
    s.heard backend (chunks.map fun c => .chunk c.1 c.2) =
      (chunks.filter fun c => c.1.isNone && c.2.length ≤ longestChunk).map (client, ·.2) := by
  -- Over the chunks, for every server with this client: a chunk does not change where the audio goes.
  induction chunks generalizing s with
  | nil => rfl
  | cons c rest ih =>
    obtain ⟨send, chunk⟩ := c
    have later : (s.step backend (.chunk send chunk)).pairing.destination = some client := by
      obtain ⟨audio, ivs, datagrams, -, frame⟩ := emit_frame send chunk s
      rw [step, frame]
      exact aimed
    rw [List.map_cons, heard, ih later, aimed, List.filter_cons]
    cases send with
    | some e => rfl
    | none =>
      by_cases fits : chunk.length ≤ longestChunk
      · simp [Event.heard, fits]
      · simp [Event.heard, fits]

/-- At every point of a run the socket is asked once to send a chunk that fits a datagram, and never a
longer one. The packet depends on the key, the vector drawn and the chunk only, and it is the one thing
added to what was sent, if there is a client and the network takes it. Over the run the datagrams of the
audio path, in order, have the sealed lengths of the chunks that their recipients hear and open as
them. -/
theorem chunks_sent_once {backend : Device σ} {config : Config} {device : σ} {commandPort : UInt16}
    {ivs : IvSource} {setup : Setup} {s : Server σ}
    (started : start backend config device commandPort ivs setup = .ok s) (events : List Event) :
    (∀ chunk : List UInt8,
      let t := s.run backend events
      let packet := Framer.sealed s.key.block t.ivs.draw.1 chunk
      (∀ send, t.emit send chunk = t.emitTo (transmit send) chunk) ∧
      (chunk.length ≤ 65487 → packet.length = sealedLength chunk.length ∧ ∃ audio : AudioPath,
        let left : Server σ := { t with audio, ivs := t.ivs.draw.2 }
        (∀ socket : Socket σ, t.emitTo socket chunk = socket packet left) ∧
        (∀ client, t.pairing.destination = some client → t.emit none chunk =
          (.sent ⟨client, packet⟩, { left with sent := t.sent ++ [⟨client, packet⟩] })) ∧
        (∀ send, t.pairing.destination = none ∨ send ≠ none → t.emit send chunk = (.lost, left))) ∧
      (65487 < chunk.length → ∃ e, (∀ socket : Socket σ, t.emitTo socket chunk = (.dropped e, t)) ∧
        ∀ send, t.emit send chunk = (.dropped e, t))) ∧
    (s.streamed backend events).map (fun d =>
        (d.recipient, d.bytes.length, Framer.decode d.bytes (.ofKey s.key))) =
      (s.heard backend events).map fun h =>
        (h.1, sealedLength h.2.length, .ok h.2 (.ofKey s.key)) := by
  have sound := sound_of_start started
  have room := roomy_of_start started
  refine ⟨fun chunk => ?_, streamed_eq backend sound room events⟩
  have later := (sound_kept backend s.key).run events sound
  have roomLater := (roomy_kept backend).run events room
  generalize s.run backend events = t at later roomLater ⊢
  have made : t.chunkPacket chunk = Framer.sealed s.key.block t.ivs.draw.1 chunk := by
    rw [chunkPacket, later.audio]
  refine ⟨fun send => emit_eq_emitTo .., fun fits => ⟨Framer.length_sealed .., ?_⟩, fun tooLong => ?_⟩
  · have fits : chunk.length ≤ longestChunk := fits
    rw [← made]
    refine ⟨(t.chunkSealed chunk).audio, fun socket => ?_, fun client aimed => ?_, fun send lost => ?_⟩
    · rw [emitTo_eq roomLater, if_pos fits]
      rfl
    · rw [emit_eq roomLater, if_pos fits, transmit_aimed (s := t.chunkSealed chunk) aimed]
      rfl
    · rw [emit_eq roomLater, if_pos fits, transmit_lost (s := t.chunkSealed chunk) lost]
      rfl
  · have long : ¬ chunk.length ≤ longestChunk := Nat.not_le.mpr tooLong
    refine ⟨.bufferTooSmall (sealedLength chunk.length) maximumDatagram, fun socket => ?_,
      fun send => ?_⟩
    · rw [emitTo_eq roomLater, if_neg long]
    · rw [emit_eq roomLater, if_neg long]

/-- A client pairs. Of the chunks made for it one is too long for a datagram, one is not taken by the
network, and a long one and a short one are sent. -/
theorem chunks_sent_once_standard_tone :
    let server := Standard.server Capture.Tone.device .standard
    let client : SocketAddress := ⟨⟨10, 0, 0, 7⟩, 9000⟩
    let long := List.replicate 65487 7
    let chunks : List (Option OsError × List UInt8) :=
      [(none, List.replicate 65488 9), (some ⟨101⟩, long), (none, long), (none, [1, 2, 3])]
    let events := Event.arrival .control {} (.datagram Standard.request Standard.client) ::
      chunks.map fun c => .chunk c.1 c.2
    start Capture.Tone.device Standard.config .standard 5541 (.seeded default) {} = .ok server ∧
      (server.streamed Capture.Tone.device events).map (fun d =>
          (d.recipient, d.bytes.length, Framer.decode d.bytes (.ofKey Standard.key))) =
        [(client, 65504, .ok long (.ofKey Standard.key)),
          (client, 32, .ok [1, 2, 3] (.ofKey Standard.key))] := by
  intro server client long chunks events
  have started : start Capture.Tone.device Standard.config .standard 5541 (.seeded default) {} =
      .ok server := Standard.start ..
  let ready : Capture.Tone := { Capture.Tone.standard with
    format := some .standard
    period := Audio.framesPerPeriod 48000 Capture.Tone.periodLength
    listener := some audioListener }
  have prepared : Capture.Tone.device.prepare server.format
      (Capture.Tone.device.stop server.pairing.device) = .ok () ready := rfl
  have answers : Handshake.answer (.request 9000) (Capture.Tone.device.advertised ready) 5541 =
      .ok ⟨9000, 0, 16, 2, 48000, 480, 5541⟩ := rfl
  have sound : server.Sound Standard.key := .initial ..
  have paired := receive_of_started (c := {}) sound rfl rfl Standard.client Standard.requestIn_received
    prepared answers rfl rfl rfl
  have aimed : (server.step Capture.Tone.device (.arrival .control {}
      (.datagram Standard.request Standard.client))).pairing.destination = some client := by
    rw [step]
    exact paired.2
  -- Said of any chunks of these lengths, so that none has to be written out.
  have taken (longer long : List UInt8) (beyond : longer.length = 65488) (edge : long.length = 65487) :
      [(none, longer), (some ⟨101⟩, long), (none, long), (none, [1, 2, 3])].filter
          (fun c : Option OsError × List UInt8 => c.1.isNone && c.2.length ≤ longestChunk) =
        [(none, long), (none, [1, 2, 3])] := by
    simp [beyond, edge, longestChunk]
  have heard : server.heard Capture.Tone.device events = [(client, long), (client, [1, 2, 3])] := by
    rw [Server.heard, Event.heard, List.nil_append, heard_of_aimed Capture.Tone.device aimed chunks,
      taken _ long List.length_replicate List.length_replicate]
    rfl
  have streams := (chunks_sent_once started events).2
  rw [heard, List.map_cons, List.map_singleton, List.length_replicate] at streams
  dsimp only at streams
  exact ⟨started, streams⟩

end Server

end PairedAudio
