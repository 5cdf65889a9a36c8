import PairedAudio.Proofs.Chunks
import PairedAudio.Proofs.Period
import PairedAudio.Proofs.Reload
import PairedAudio.Proofs.Takeover.Exchange
import PairedAudio.Proofs.Takeover.Isolation

/-! What a handshake announces is what its capture thread sends, in every interleaving.

A server has one format for life, and a handshake that replies has prepared the tone for it. Threads
are started after that, so the chunks of all of them have the length of a period, and that is the
length which follows from the reply.
-/

set_option autoImplicit false

namespace PairedAudio.Takeover

open Audio (Format framesPerPeriod)
open Capture (Tone ToneRun)
open Cipher (IvSource Key)
open Framer (sealedLength)
open Wire (Command Settings)

structure Shape where
  control : Cipher.Block
  audio : Cipher.Block
  served : Format
  room : Nat
  prepared : Option Format
  period : UInt32

namespace Shape

structure Ready (format : Format) (g : Shape) : Prop where
  prepared : g.prepared = some format
  period : g.period = framesPerPeriod format.rate Tone.periodLength

/-- Keys, format and buffer are those of the start. -/
structure Sound (key : Key) (format : Format) (g : Shape) : Prop where
  control : g.control = key.block
  audio : g.audio = key.block
  served : g.served = format
  room : g.room = maximumDatagram

end Shape

def shape (s : Server Tone) : Shape where
  control := s.control.framer.codec.key
  audio := s.audio.framer.codec.key
  served := s.format
  room := s.audio.scratch.length
  prepared := s.pairing.device.format
  period := s.pairing.device.period

section Shape

variable (s : Server Tone) (w : Worker)

theorem shape_opened (packet : List UInt8) : shape (s.opened w packet) = shape s := by
  cases w <;> simp [shape, Server.opened, Server.setWorker, Server.worker]

theorem shape_sealing : shape (s.sealing w) = shape s := by cases w <;> rfl

theorem shape_answered (recipient : SocketAddress) (plain : List UInt8) :
    shape (s.answered w recipient plain) = shape s := by
  cases w <;> rfl

theorem shape_of_carried {command : Command} {s : Server Tone}
    {r : EStateM.Result HandlerFault (Server Tone) Unit}
    (carried : Control.Carried Tone.device s command r) : shape (Handler.after r) = shape s := by
  cases carried with
  | pinged | stopped => rfl
  | switched set =>
    cases set
    rfl
  | unswitched failed => cases failed

theorem shape_chunkSealed (room : s.Roomy) {chunk : List UInt8}
    (fits : chunk.length ≤ longestChunk) : shape (s.chunkSealed chunk) = shape s := by
  have same : (s.chunkSealed chunk).audio.scratch.length = s.audio.scratch.length :=
    (Server.roomy_chunkSealed room fits).trans room.symm
  simp only [shape, same]
  rfl

end Shape

/-- Whoever has the key finds a chunk of one period in the packet. -/
def Carries (key : Key) (format : Format) (packet : List UInt8) : Prop :=
  ∃ chunk, Framer.decode packet (.ofKey key) = .ok chunk (.ofKey key) ∧
    chunk.length = periodBytes format

/-- Whoever has the key reads the settings in the reply. -/
def Reads (key : Key) (reply : Datagram) (settings : Settings) : Prop :=
  ∃ plain, Framer.decode reply.bytes (.ofKey key) = .ok plain (.ofKey key) ∧
    Settings.decode plain = .ok settings

structure Describes (format : Format) (settings : Settings) : Prop where
  rate : settings.sampleRate.toInt = format.rate.toNat
  period : settings.enginePeriod.toInt = (framesPerPeriod format.rate Tone.periodLength).toNat
  channels : settings.channelCount.toInt = Tone.channels.toNat
  bits : settings.bitsPerSample.toInt = format.bits.toNat

theorem advertised_of_ready {f : Format} {s : Server Tone} (ready : (shape s).Ready f) :
    Tone.device.advertised s.pairing.device =
      ⟨f.encoding, f.bits, Tone.channels, f.rate, framesPerPeriod f.rate Tone.periodLength⟩ := by
  have format : s.pairing.device.format = some f := ready.prepared
  have period : s.pairing.device.period = framesPerPeriod f.rate Tone.periodLength := ready.period
  simp only [Tone.device, Tone.advertised, format, period]

/-- No value of a valid format is too large for its field. -/
theorem answered_of_ready {f : Format} (valid : f.validate = .ok ()) {s : Server Tone}
    (ready : (shape s).Ready f) {request : Settings} {port : UInt16}
    (asked : request.audioPort = .ok port) :
    ∃ settings, Handshake.answer request (Tone.device.advertised s.pairing.device) s.commandPort =
      .ok settings ∧ Describes f settings := by
  have rate := (f.valid_parts valid).1
  rw [advertised_of_ready ready]
  cases answers : Handshake.answer request
      ⟨f.encoding, f.bits, Tone.channels, f.rate, framesPerPeriod f.rate Tone.periodLength⟩
      s.commandPort with
  | ok settings =>
    have reports := Handshake.answer_reports asked answers
    exact ⟨settings, rfl, reports.sampleRate, reports.enginePeriod, reports.channelCount,
      reports.bitsPerSample⟩
  | error e =>
    have large := (Handshake.answer_error_iff request _ s.commandPort).mp ⟨e, answers⟩
    simp only [Tone.periodLength, Audio.toNat_framesPerPeriod rate, largestField] at large
    omega

structure Thread.Cuts (key : Key) (f : Format) (t : Thread) : Prop where
  format : t.run.format = f
  frames : t.run.frames = (framesPerPeriod f.rate Tone.periodLength).toNat
  calling (chunk : List UInt8) (stage : t.stage = .calling chunk) : chunk.length = periodBytes f
  sending (packet : List UInt8) (stage : t.stage = .sending packet) : Carries key f packet

def Phase.isPrepared : Phase → Bool
  | replying | connecting | starting | beginning => true
  | locking | stopping | joining | ending | preparing => false

def Phase.isAnnounced : Phase → Bool
  | connecting | starting | beginning => true
  | locking | stopping | joining | ending | preparing | replying => false

theorem tone_start (spawn : Option OsError) (tone : Tone) :
    let result := Tone.start spawn tone
    (∃ e after, result = .error e after ∧ after.format = tone.format ∧ after.period = tone.period) ∨
      ∃ after run, result = .ok () after ∧ after.run = some run ∧
        (after.format = tone.format ∧ after.period = tone.period) ∧
        tone.format = some run.format ∧ run.frames = tone.period.toNat := by
  unfold Tone.start
  cases initialised : tone.format with
  | none => exact .inl ⟨_, _, rfl, initialised, rfl⟩
  | some format =>
    cases tone.running with
    | true => exact .inl ⟨_, _, rfl, initialised, rfl⟩
    | false =>
      cases spawn with
      | some e => exact .inl ⟨_, _, rfl, rfl, rfl⟩
      | none => exact .inr ⟨_, _, rfl, rfl, ⟨rfl, rfl⟩, rfl, rfl⟩

theorem length_le_longestChunk {f : Format} (valid : f.validate = .ok ()) {chunk : List UInt8}
    (length : chunk.length = periodBytes f) : chunk.length ≤ longestChunk := by
  have bound := periodBytes_le valid
  rw [longestChunk]
  omega

/-- A chunk of one period is never too long for a datagram. -/
theorem seal_of_length {key : Key} {f : Format} {s : Server Tone} (sound : (shape s).Sound key f)
    (valid : f.validate = .ok ()) {chunk : List UInt8} (length : chunk.length = periodBytes f) :
    s.sealChunk chunk = (.ok (s.chunkPacket chunk), s.chunkSealed chunk) ∧
      Carries key f (s.chunkPacket chunk) := by
  have held : s.audio.framer.codec.key = key.block := sound.audio
  refine ⟨?_, chunk, Framer.decode_of_payload ?_, length⟩
  · rw [Server.sealChunk_eq sound.room, if_pos (length_le_longestChunk valid length)]
  · rw [Server.chunkPacket, held]
    exact Framer.payload_sealed ..

namespace Exchange

def Replied (replies : List (Nat × Datagram)) (n : Nat) : Prop := ∃ reply, (n, reply) ∈ replies

structure Expects (f : Format) (g : Shape) (replies : List (Nat × Datagram)) (r : Request) : Prop where
  asked : r.settings.audioPort = .ok r.port
  prepared (late : r.phase.isPrepared = true) : g.Ready f
  announced (late : r.phase.isAnnounced = true) : Replied replies r.number

structure Sound (key : Key) (f : Format) (x : Exchange) : Prop where
  shape : (shape x.system.server).Sound key f
  request (r : Request) (present : x.system.request = some r) :
    Expects f (Takeover.shape x.system.server) x.replies r
  threads (t : Thread) (present : t ∈ x.system.threads) :
    t.Cuts key f ∧ Replied x.replies t.handshake
  sent (n : Nat) (d : Datagram) (occurred : .sent n d ∈ x.system.history) :
    Carries key f d.bytes ∧ Replied x.replies n
  replies (n : Nat) (reply : Datagram) (replied : (n, reply) ∈ x.replies) :
    ∃ settings, Reads key reply settings ∧ Describes f settings

namespace Sound

variable {key : Key} {f : Format} {x : Exchange}

theorem of_same (sound : x.Sound key f) {s : System}
    (same : Takeover.shape s.server = Takeover.shape x.system.server)
    (threads : s.threads = x.system.threads)
    (history : ∀ n d, .sent n d ∈ s.history → .sent n d ∈ x.system.history)
    (request : ∀ r, s.request = some r → Expects f (Takeover.shape x.system.server) x.replies r) :
    Sound key f { x with system := s } where
  shape := same ▸ sound.shape
  request r present := same ▸ request r present
  threads t present := sound.threads t (threads ▸ present)
  sent n d occurred := sound.sent n d (history n d occurred)
  replies := sound.replies

theorem of_server (sound : x.Sound key f) {server : Server Tone}
    (same : Takeover.shape server = Takeover.shape x.system.server) :
    Sound key f { x with system := { x.system with server } } :=
  sound.of_same same rfl (fun _ _ => id) sound.request

theorem proceed (sound : x.Sound key f) {r : Request} (present : x.system.request = some r)
    {phase : Phase} {s : System} (same : Takeover.shape s.server = Takeover.shape x.system.server)
    (threads : s.threads = x.system.threads)
    (history : ∀ n d, .sent n d ∈ s.history → .sent n d ∈ x.system.history)
    (prepared : phase.isPrepared = true → r.phase.isPrepared = true)
    (announced : phase.isAnnounced = true → r.phase.isAnnounced = true) :
    Sound key f { x with system := System.proceed r s phase } := by
  refine sound.of_same same threads history fun r' present' => ?_
  cases present'
  have expects := sound.request r present
  exact ⟨expects.asked, fun late => expects.prepared (prepared late),
    fun late => expects.announced (announced late)⟩

theorem proceed_early (sound : x.Sound key f) {r : Request} (present : x.system.request = some r)
    {phase : Phase} {s : System} (same : Takeover.shape s.server = Takeover.shape x.system.server)
    (threads : s.threads = x.system.threads)
    (history : ∀ n d, .sent n d ∈ s.history → .sent n d ∈ x.system.history)
    (unprepared : phase.isPrepared = false) (unannounced : phase.isAnnounced = false) :
    Sound key f { x with system := System.proceed r s phase } :=
  sound.proceed present same threads history (fun late => by rw [unprepared] at late; cases late)
    (fun late => by rw [unannounced] at late; cases late)

theorem release (sound : x.Sound key f) {s : System}
    (same : Takeover.shape s.server = Takeover.shape x.system.server)
    (threads : s.threads = x.system.threads) (history : s.history = x.system.history) :
    Sound key f { x with system := s.release } :=
  sound.of_same same threads (fun _ _ occurred => history ▸ occurred) nofun

theorem join (sound : x.Sound key f) {r : Request} (present : x.system.request = some r) :
    Sound key f { x with system := System.join r x.system } := by
  unfold System.join
  split
  · exact sound
  · exact sound.proceed_early present rfl rfl
      (fun n d occurred => (List.mem_cons.mp occurred).resolve_left (by simp)) rfl rfl

theorem prepare (sound : x.Sound key f) (valid : f.validate = .ok ()) {r : Request}
    (present : x.system.request = some r) :
    Sound key f { x with
      system := System.attempt r x.system .replying
        (Handler.onDevice (Tone.device.prepare x.system.server.format)) } := by
  have served : x.system.server.format = f := sound.shape.served
  let tuned : Tone := { x.system.tone with
    format := some f
    period := framesPerPeriod f.rate Tone.periodLength }
  have prepared : Tone.device.prepare x.system.server.format x.system.server.pairing.device =
      .ok () tuned := by
    rw [Tone.prepare_eq, served, valid]
    rfl
  have ready : (Takeover.shape (x.system.server.withDevice tuned)).Ready f := ⟨rfl, rfl⟩
  unfold System.attempt
  rw [Handler.onDevice_ok prepared]
  exact {
    shape := ⟨sound.shape.control, sound.shape.audio, sound.shape.served, sound.shape.room⟩
    request := fun r' present' => by
      cases present'
      exact ⟨(sound.request r present).asked, fun _ => ready, nofun⟩
    threads := sound.threads
    sent := sound.sent
    replies := sound.replies }

theorem connect (sound : x.Sound key f) {r : Request} (present : x.system.request = some r)
    (phase : r.phase = .connecting) :
    Sound key f { x with
      system := System.attempt r x.system .starting (Handshake.connect r.circumstances r.client) } := by
  unfold System.attempt
  cases connected : r.circumstances.connect with
  | some e =>
    rw [Handshake.connect_error connected]
    exact sound.release rfl rfl rfl
  | none =>
    rw [Handshake.connect_ok connected]
    exact sound.proceed present rfl rfl (fun _ _ => id) (by simp [phase, Phase.isPrepared])
      (by simp [phase, Phase.isAnnounced])

theorem spawn (sound : x.Sound key f) {r : Request} (present : x.system.request = some r)
    (phase : r.phase = .starting) : Sound key f { x with system := System.spawn r x.system } := by
  have expects := sound.request r present
  have ready : (Takeover.shape x.system.server).Ready f := expects.prepared (by rw [phase]; rfl)
  have replied : Replied x.replies r.number := expects.announced (by rw [phase]; rfl)
  unfold System.spawn
  split
  · exact sound.release rfl rfl rfl
  split
  · exact sound
  -- From here on the threads are the same as before, but for their flags.
  let detached : System := { x.system with
    threads := x.system.threads.map (Thread.detach x.system.tone.running), handle := none }
  have cuts (t : Thread) (there : t ∈ detached.threads) :
      t.Cuts key f ∧ Replied x.replies t.handshake := by
    obtain ⟨old, present, rfl⟩ := List.mem_map.mp there
    obtain ⟨cuts, replied⟩ := sound.threads old present
    exact ⟨⟨cuts.format, cuts.frames, cuts.calling, cuts.sending⟩, replied⟩
  have unchanged {tone : Tone} (format : tone.format = x.system.tone.format)
      (period : tone.period = x.system.tone.period) :
      Takeover.shape (x.system.server.withDevice tone) = Takeover.shape x.system.server := by
    have format : tone.format = x.system.server.pairing.device.format := format
    have period : tone.period = x.system.server.pairing.device.period := period
    simp only [Takeover.shape, Server.withDevice, format, period]
  obtain ⟨e, tone, failed, format, period⟩ | ⟨tone, run, begun, runs, ⟨format, period⟩, cut, frames⟩ :=
    tone_start r.spawn x.system.tone
  · have outcome : Tone.start r.spawn detached.tone = .error e tone := failed
    have kept : Sound key f { x with system := detached } :=
      ⟨sound.shape, sound.request, cuts, sound.sent, sound.replies⟩
    simp only [detached] at outcome
    simp only [outcome]
    exact kept.release (unchanged format period) rfl rfl
  · have outcome : Tone.start r.spawn detached.tone = .ok () tone := begun
    have new : Thread.Cuts key f { handshake := r.number, run } := by
      have prepared : x.system.tone.format = some f := ready.prepared
      have length : x.system.tone.period = framesPerPeriod f.rate Tone.periodLength := ready.period
      have same : run.format = f := Option.some.inj (cut.symm.trans prepared)
      exact ⟨same, length ▸ frames, by simp, by simp⟩
    simp only [detached] at outcome
    simp only [outcome, runs]
    have same := unchanged format period
    exact {
      shape := same ▸ sound.shape
      request := fun r' present' => by
        cases present'
        exact ⟨expects.asked, fun _ => same ▸ ready, fun _ => replied⟩
      threads := fun t there => by
        rcases List.mem_append.mp there with old | started
        · exact cuts t old
        · rw [List.mem_singleton.mp started]
          exact ⟨new, replied⟩
      sent := fun n d occurred => sound.sent n d ((List.mem_cons.mp occurred).resolve_left (by simp))
      replies := sound.replies }

theorem respond (sound : x.Sound key f) (valid : f.validate = .ok ()) {r : Request}
    (present : x.system.request = some r) (phase : r.phase = .replying) :
    let s := System.attempt r x.system .connecting
      (Handshake.respond Tone.device r.circumstances r.settings r.sender)
    Sound key f ⟨s, x.replies ++
      (s.server.sent.drop x.system.server.sent.length).map (r.number, ·)⟩ := by
  have expects := sound.request r present
  have ready : (Takeover.shape x.system.server).Ready f := expects.prepared (by rw [phase]; rfl)
  obtain ⟨settings, answers, describes⟩ := answered_of_ready valid ready expects.asked
  unfold System.attempt
  cases sent : r.circumstances.reply with
  | some e =>
    rw [Handshake.respond_lost answers sent]
    have lost := sound.release (s := { x.system with server := x.system.server.sealing .control })
      (shape_sealing _ _) rfl rfl
    simpa [System.release] using lost
  | none =>
    rw [Handshake.respond_ok answers sent]
    let reply : Datagram := ⟨r.sender, x.system.server.packetFor .control settings.encode⟩
    have reads : Reads key reply settings := by
      refine ⟨settings.encode, Framer.decode_of_payload ?_, Settings.decode_encode settings⟩
      have held : x.system.server.control.framer.codec.key = key.block := sound.shape.control
      simp only [reply, Server.packetFor, Server.worker, held]
      exact Framer.payload_sealed ..
    have more (n : Nat) (before : Replied x.replies n) :
        Replied (x.replies ++ [(r.number, reply)]) n := by
      obtain ⟨first, member⟩ := before
      exact ⟨first, List.mem_append_left _ member⟩
    have same := shape_answered x.system.server .control r.sender settings.encode
    simp only [System.proceed, Server.answered_sent, List.drop_left', List.map_singleton]
    exact {
      shape := same ▸ sound.shape
      request := fun r' present' => by
        cases present'
        exact ⟨expects.asked, fun _ => same ▸ ready,
          fun _ => ⟨reply, List.mem_append_right _ (.head _)⟩⟩
      threads := fun t there => ⟨(sound.threads t there).1, more _ (sound.threads t there).2⟩
      sent := fun n d occurred => ⟨(sound.sent n d occurred).1, more _ (sound.sent n d occurred).2⟩
      replies := fun n other replied => by
        rcases List.mem_append.mp replied with before | new
        · exact sound.replies n other before
        · cases List.mem_singleton.mp new
          exact ⟨settings, reads, describes⟩ }

theorem advance (sound : x.Sound key f) (valid : f.validate = .ok ()) {r : Request}
    (present : x.system.request = some r) (quiet : r.phase ≠ .replying) :
    Sound key f { x with system := x.system.stepHandshake } := by
  simp only [System.stepHandshake, present]
  cases phase : r.phase with
  | locking =>
    simp only
    split
    · exact sound
    · exact sound.proceed_early present rfl rfl (fun _ _ => id) rfl rfl
  | stopping => exact sound.proceed_early present rfl rfl (fun _ _ => id) rfl rfl
  | joining => exact sound.join present
  | ending => exact sound.proceed_early present rfl rfl (fun _ _ => id) rfl rfl
  | preparing => exact sound.prepare valid present
  | replying => exact absurd phase quiet
  | connecting => exact sound.connect present phase
  | starting => exact sound.spawn present phase
  | beginning => exact sound.release rfl rfl rfl

theorem handshake (sound : x.Sound key f) (valid : f.validate = .ok ()) :
    (x.step (.move .handshake)).Sound key f := by
  cases present : x.system.request with
  | none =>
    simp only [step, System.next, System.step, System.stepHandshake, present]
    exact sound
  | some r =>
    by_cases phase : r.phase = .replying
    · simp only [step, System.next, System.step, System.stepHandshake, present, phase]
      exact sound.respond valid present phase
    · have silent : x.system.stepHandshake.server.sent = x.system.server.sent :=
        sent_stepHandshake present phase
      simp only [step, System.next, System.step, present, silent, List.drop_length, List.map_nil,
        List.append_nil]
      exact sound.advance valid present phase

theorem ask (sound : x.Sound key f) (c : Circumstances) (spawn : Option OsError) (packet : List UInt8)
    (sender : SocketAddress) : Sound key f { x with system := x.system.ask c spawn packet sender } := by
  have opened := shape_opened x.system.server .control packet
  unfold System.ask
  split
  · exact sound
  · rw [Handshake.read_eq]
    cases asks : Handshake.requestIn x.system.server.control.framer.codec.key packet with
    | error e => exact sound.of_server opened
    | ok asked =>
      refine sound.of_same opened rfl (fun _ _ => id) fun r present => ?_
      cases present
      exact ⟨Handshake.audioPort_of_requestIn asks, nofun, nofun⟩

theorem order (sound : x.Sound key f) (c : Circumstances) (packet : List UInt8)
    (sender : SocketAddress) :
    Sound key f { x with system := x.system.receiveOrder c packet sender } := by
  have opened := shape_opened x.system.server .command packet
  unfold System.receiveOrder
  split
  · exact sound
  · rw [Control.read_eq]
    cases Control.commandIn x.system.server.command.framer.codec.key packet with
    | error e => exact sound.of_server opened
    | ok command => exact sound.of_same opened rfl (fun _ _ => id) sound.request

theorem lockFor (sound : x.Sound key f) (o : Order) (duty : Duty) :
    Sound key f { x with system := x.system.lockFor o duty } := by
  unfold System.lockFor
  split
  · exact sound
  · exact sound.of_same rfl rfl (fun _ _ => id) sound.request

theorem command (sound : x.Sound key f) : Sound key f { x with system := x.system.stepCommand } := by
  unfold System.stepCommand
  cases x.system.order with
  | none => exact sound
  | some o =>
    simp only
    cases o.duty with
    | locking => exact sound.lockFor o .carrying
    | carrying =>
      have carried := shape_of_carried (Control.carryOut_carried Tone.device o.command x.system.server)
      simp only
      cases result : Control.carryOut Tone.device o.command x.system.server with
      | error fault server =>
        rw [result] at carried
        exact sound.of_same carried rfl (fun _ _ => id) sound.request
      | ok done server =>
        rw [result] at carried
        exact sound.of_same carried rfl (fun _ _ => id) sound.request
    | acknowledging =>
      simp only [Handler.sealPacket_eq]
      cases o.circumstances.ack with
      | none => exact sound.of_same (shape_answered ..) rfl (fun _ _ => id) sound.request
      | some e => exact sound.of_same (shape_sealing ..) rfl (fun _ _ => id) sound.request
    | relocking => exact sound.lockFor o .silencing
    | silencing => exact sound.of_same rfl rfl (fun _ _ => id) sound.request

theorem put (sound : x.Sound key f) {t : Thread} (cuts : t.Cuts key f)
    (replied : Replied x.replies t.handshake) : Sound key f { x with system := x.system.put t } where
  shape := sound.shape
  request := sound.request
  threads u there := by
    rcases Scene.mem_of_put there with rfl | old
    · exact ⟨cuts, replied⟩
    · exact sound.threads u old
  sent := sound.sent
  replies := sound.replies

theorem turn (sound : x.Sound key f) (valid : f.validate = .ok ()) {t : Thread}
    (present : t ∈ x.system.threads) (send : Option OsError) :
    Sound key f { x with system := x.system.turn t send } := by
  obtain ⟨cuts, replied⟩ := sound.threads t present
  -- Most stages hold neither a chunk nor a packet.
  have idle {t' : Thread} (same : t'.run = t.run) (quiet : ∀ chunk, t'.stage ≠ .calling chunk)
      (silent : ∀ packet, t'.stage ≠ .sending packet) : t'.Cuts key f :=
    ⟨same ▸ cuts.format, same ▸ cuts.frames, fun chunk stage => absurd stage (quiet chunk),
      fun packet stage => absurd stage (silent packet)⟩
  unfold System.turn
  cases stage : t.stage with
  | testing =>
    refine sound.put (idle rfl ?_ ?_) replied <;> intro _ <;> simp only <;> split <;> nofun
  | sleeping => exact sound.put (idle rfl nofun nofun) replied
  | listening =>
    refine sound.put (idle rfl ?_ ?_) replied <;> intro _ <;> simp only <;> split <;> nofun
  | building =>
    refine sound.put ⟨cuts.format, cuts.frames, ?_, nofun⟩ replied
    intro chunk calling
    cases calling
    exact length_chunk valid cuts.format cuts.frames
  | calling chunk =>
    have length : chunk.length = periodBytes f := cuts.calling chunk stage
    obtain ⟨sealing, carries⟩ := seal_of_length sound.shape valid length
    simp only [sealing]
    have sealed := sound.of_server (shape_chunkSealed x.system.server sound.shape.room
      (length_le_longestChunk valid length))
    refine sealed.put ⟨cuts.format, cuts.frames, nofun, ?_⟩ replied
    intro packet sending
    cases sending
    exact carries
  | sending packet =>
    have cuts' : Thread.Cuts key f { t with stage := .testing } := idle rfl nofun nofun
    simp only [Server.transmit]
    cases x.system.server.pairing.destination with
    | none => exact sound.put cuts' replied
    | some recipient =>
      cases send with
      | some e => exact sound.put cuts' replied
      | none =>
        -- What is recorded first is the packet, and only then does the thread go on.
        have transmitted : Sound key f { x with
          system := { x.system with
            server := { x.system.server with sent := x.system.server.sent ++ [⟨recipient, packet⟩] }
            history := .sent t.handshake ⟨recipient, packet⟩ :: x.system.history } } := {
          shape := sound.shape
          request := sound.request
          threads := sound.threads
          sent := fun n d occurred => by
            rcases List.mem_cons.mp occurred with latest | earlier
            · cases latest
              exact ⟨cuts.sending packet stage, replied⟩
            · exact sound.sent n d earlier
          replies := sound.replies }
        exact transmitted.put cuts' replied
  | ended => exact sound

theorem thread (sound : x.Sound key f) (valid : f.validate = .ok ()) (n : Nat) (send : Option OsError) :
    Sound key f { x with system := x.system.stepThread n send } := by
  unfold System.stepThread
  cases found : x.system.threads.find? fun t => t.handshake == n with
  | none => exact sound
  | some t => exact sound.turn valid (List.mem_of_find?_eq_some found) send

theorem shutdown (sound : x.Sound key f) : Sound key f { x with system := x.system.shutdown } := by
  unfold System.shutdown
  split
  · exact sound
  split
  · exact sound.of_same rfl rfl (fun _ _ => id) sound.request
  · exact sound.of_same rfl rfl (fun _ _ => id) sound.request

theorem step (sound : x.Sound key f) (valid : f.validate = .ok ()) (turn : Turn) :
    (x.step turn).Sound key f := by
  cases turn with
  | shutdown => exact sound.shutdown
  | move m =>
    cases m with
    | ask c spawn packet sender => exact sound.ask c spawn packet sender
    | handshake => exact sound.handshake valid
    | order c packet sender => exact sound.order c packet sender
    | command => exact sound.command
    | thread n send => exact sound.thread valid n send

theorem run (sound : x.Sound key f) (valid : f.validate = .ok ()) (turns : List Turn) :
    (x.run turns).Sound key f := by
  induction turns generalizing x with
  | nil => exact sound
  | cons turn rest ih => exact ih (sound.step valid turn)

theorem initial {config : Config} {frequency amplitude : Audio.Binary32} {commandPort : UInt16}
    {ivs : IvSource} {setup : Setup} {server : Server Tone}
    (started : Server.start Tone.device config { frequency, amplitude } commandPort ivs setup =
      .ok server) :
    Sound server.key config.format { system := { server } } := by
  have room : server.Roomy := Server.roomy_of_start started
  obtain ⟨key, -, rfl⟩ := Server.eq_initial_of_start started
  exact {
    shape := ⟨rfl, rfl, rfl, room⟩
    request := nofun
    threads := nofun
    sent := nofun
    replies := nofun }

end Sound

/-- What holds of replies and audio, whatever has happened so far. -/
structure Announced (key : Key) (x : Exchange) : Prop where
  /-- No audio is sent for a handshake without a reply. -/
  replied (n : Nat) (d : Datagram) (sent : .sent n d ∈ x.system.history) :
    ∃ reply, (n, reply) ∈ x.replies
  /-- A reply and the packets of its session open with the key, and each packet has the length that
  follows from the reply. -/
  streamed (n : Nat) (reply : Datagram) (replied : (n, reply) ∈ x.replies) :
    ∃ settings, Reads key reply settings ∧
      settings.enginePeriod.toInt = settings.sampleRate.toInt * 10 / 1000 ∧
      ∀ d, .sent n d ∈ x.system.history →
        ∃ chunk, Framer.decode d.bytes (.ofKey key) = .ok chunk (.ofKey key) ∧
          (chunk.length : Int) = settings.enginePeriod.toInt * settings.channelCount.toInt *
            (settings.bitsPerSample.toInt / 8)
  /-- Whatever is to be replied fits its fields. -/
  accepted (r : Request) (present : x.system.request = some r) (phase : r.phase = .replying) :
    ∃ settings, Handshake.answer r.settings (Tone.device.advertised x.system.tone)
      x.system.server.commandPort = .ok settings
  /-- Whatever a thread makes fits a datagram. -/
  fitting (t : Thread) (present : t ∈ x.system.threads) (chunk : List UInt8)
      (calling : t.stage = .calling chunk) :
    ∃ packet sealed, x.system.server.sealChunk chunk = (.ok packet, sealed) ∧ packet.length ≤ 65507

theorem Sound.announced {key : Key} {f : Format} {x : Exchange} (sound : x.Sound key f)
    (valid : f.validate = .ok ()) : x.Announced key where
  replied n d sent := (sound.sent n d sent).2
  streamed n reply replied := by
    have rate := (f.valid_parts valid).1
    obtain ⟨settings, reads, describes⟩ := sound.replies n reply replied
    refine ⟨settings, reads, ?_, fun d sent => ?_⟩
    · rw [describes.period, describes.rate, Tone.periodLength, Audio.toNat_framesPerPeriod rate]
      omega
    · obtain ⟨⟨chunk, opens, length⟩, -⟩ := sound.sent n d sent
      refine ⟨chunk, opens, ?_⟩
      rw [length, describes.period, describes.channels, describes.bits, periodBytes,
        Format.bytesPerFrame, Format.bytesPerSample, Nat.mul_comm (f.bits.toNat / 8), ← Nat.mul_assoc]
      push_cast
      rfl
  accepted r present phase := by
    have expects := sound.request r present
    obtain ⟨settings, answers, -⟩ :=
      answered_of_ready valid (expects.prepared (by rw [phase]; rfl)) expects.asked
    exact ⟨settings, answers⟩
  fitting t present chunk calling := by
    have length := (sound.threads t present).1.calling chunk calling
    obtain ⟨sealing, -⟩ := seal_of_length sound.shape valid length
    refine ⟨_, _, sealing, ?_⟩
    rw [Server.length_chunkPacket]
    exact (sealedLength_le_iff _).mpr (length_le_longestChunk valid length)

end Exchange

/-- There are replies and packets to speak of: the first client gets both, after the steps of its
handshake and one turn of the thread's loop. -/
theorem streams_to_first_client {config : Config} {frequency amplitude : Audio.Binary32}
    {commandPort : UInt16} {ivs : IvSource} {setup : Setup} {server : Server Tone}
    (started : Server.start Tone.device config { frequency, amplitude } commandPort ivs setup =
      .ok server) {packet : List UInt8} {settings : Settings} {port : UInt16}
    (asks : Handshake.requestIn server.key.block packet = .ok (settings, port))
    (sender : SocketAddress) :
    let pairing : List Turn := .move (.ask {} none packet sender) :: List.replicate 9 (.move .handshake)
    let x := Exchange.run { system := { server } }
      (pairing ++ List.replicate 6 (.move (.thread 0 none)))
    ∃ reply d, x.replies = [(0, reply)] ∧ .sent 0 d ∈ x.system.history := by
  intro pairing x
  have valid := (Config.valid_parts (Server.valid_of_start started)).2
  have sound := (Exchange.Sound.initial started).run valid pairing
  obtain ⟨key, -, initial⟩ := Server.eq_initial_of_start started
  let tone : Tone := { frequency, amplitude, listener := some Server.audioListener }
  let read := server.opened .control packet
  have device : read.pairing.device = tone := by
    simp only [read, initial]
    rfl
  have served : read.format = config.format := by
    simp only [read, initial]
    rfl
  have held : server.control.framer.codec.key = server.key.block := by
    rw [initial]
    rfl
  rw [← held] at asks
  let r : Request := { number := 0, circumstances := {}, spawn := none, settings, port, sender }
  obtain ⟨answer, answers, -⟩ := answered_of_ready valid (s := read.unpaired (tuned config.format tone))
    ⟨rfl, rfl⟩ (Handshake.audioPort_of_requestIn asks)
  obtain ⟨reply, base, paired⟩ := run_pairing (r := r) valid rfl rfl rfl device served answers
  rw [Exchange.run_cons, step_asking asks sender, paired] at sound
  have length : (firstRun config.format tone).chunk.length = periodBytes config.format :=
    length_chunk valid rfl rfl
  obtain ⟨sealing, -⟩ := seal_of_length sound.shape valid length
  let begun := streaming config.format tone base { r with phase := .connecting }
  obtain ⟨kept, sounds⟩ := run_sounding (s := begun) rfl rfl rfl rfl sealing rfl [(0, reply)]
  have whole : x = Exchange.run { system := begun, replies := [(0, reply)] }
      (List.replicate 6 (.move (.thread 0 none))) := by
    simp only [x, pairing, Exchange.run_append, Exchange.run_cons, step_asking asks sender]
    exact congrArg (Exchange.run · _) paired
  rw [whole]
  exact ⟨reply, _, kept, sounds⟩

/-- In every interleaving of handshakes, commands, capture threads and shutdowns, whatever the
configuration, and whatever fails. -/
theorem streams_as_announced {config : Config} {frequency amplitude : Audio.Binary32}
    {commandPort : UInt16} {ivs : IvSource} {setup : Setup} {server : Server Tone}
    (started : Server.start Tone.device config { frequency, amplitude } commandPort ivs setup =
      .ok server) (turns : List Turn) :
    (Exchange.run { system := { server } } turns).Announced server.key := by
  have valid := (Config.valid_parts (Server.valid_of_start started)).2
  exact ((Exchange.Sound.initial started).run valid turns).announced valid

/-- A client of the standard tone, with its reply and its first packet. -/
theorem streams_as_announced_standard_tone :
    let server := Standard.server Tone.device .standard
    let pairing : List Turn := .move (.ask {} none Standard.request Standard.client) ::
      List.replicate 9 (.move .handshake)
    let x := Exchange.run { system := { server } }
      (pairing ++ List.replicate 6 (.move (.thread 0 none)))
    Server.start Tone.device Standard.config .standard 5541 (.seeded default) {} = .ok server ∧
      x.Announced Standard.key ∧ ∃ reply d, x.replies = [(0, reply)] ∧ .sent 0 d ∈ x.system.history := by
  intro server pairing x
  have started : Server.start Tone.device Standard.config .standard 5541 (.seeded default) {} =
      .ok server := Standard.start ..
  exact ⟨started, streams_as_announced started _,
    streams_to_first_client started Standard.requestIn_request _⟩

end PairedAudio.Takeover
