import PairedAudio.Proofs.Takeover.System

/-! A takeover cuts the earlier client off, in every interleaving.

A thread that is alive is the one that the capture has not joined, and the audio socket is connected
to the client of its handshake. A handshake joins it before anything else and so is alone from then
on until it starts a thread itself, which is when the socket is connected to its own client.
-/

set_option autoImplicit false

namespace PairedAudio.Takeover

open Audio (Format)
open Capture (Device Tone)
open Cipher (IvSource Key)

/-- A handshake has started the capture for a client, and no stop has returned since then. -/
inductive Since (n : Nat) (client : SocketAddress) : List Occurrence → Prop
  | here {history : List Occurrence} : Since n client (.started n client :: history)
  | started {k : Nat} {other : SocketAddress} {history : List Occurrence}
      (since : Since n client history) : Since n client (.started k other :: history)
  | sent {k : Nat} {d : Datagram} {history : List Occurrence} (since : Since n client history) :
      Since n client (.sent k d :: history)

theorem Since.mem {n : Nat} {client : SocketAddress} {history : List Occurrence}
    (since : Since n client history) : .started n client ∈ history := by
  induction since with
  | here => exact List.mem_cons_self
  | started _ ih => exact List.mem_cons_of_mem _ ih
  | sent _ ih => exact List.mem_cons_of_mem _ ih

theorem Since.mem_of_cleared {n k : Nat} {client : SocketAddress} {middle earlier : List Occurrence}
    (since : Since n client (middle ++ .cleared k :: earlier)) : .started n client ∈ middle := by
  -- Over what came after the stop: a client is not reached through it.
  induction middle with
  | nil => cases since
  | cons x rest ih =>
    cases since with
    | here => exact List.mem_cons_self
    | started since => exact List.mem_cons_of_mem _ (ih since)
    | sent since => exact List.mem_cons_of_mem _ (ih since)

/-- What a history is made of: a handshake starts the capture once, and its thread sends to the
client that it was started for, as long as no stop has returned. -/
inductive Proper : List Occurrence → Prop
  | nil : Proper []
  | cleared {n : Nat} {history : List Occurrence} (rest : Proper history) :
      Proper (.cleared n :: history)
  | started {n : Nat} {client : SocketAddress} {history : List Occurrence}
      (new : ∀ other, .started n other ∉ history) (rest : Proper history) :
      Proper (.started n client :: history)
  | sent {n : Nat} {d : Datagram} {history : List Occurrence} (since : Since n d.recipient history)
      (rest : Proper history) : Proper (.sent n d :: history)

namespace Proper

theorem tail {x : Occurrence} {history : List Occurrence} (proper : Proper (x :: history)) :
    Proper history := by
  cases proper with
  | cleared rest => exact rest
  | started _ rest => exact rest
  | sent _ rest => exact rest

theorem suffix {later earlier : List Occurrence} (proper : Proper (later ++ earlier)) :
    Proper earlier := by
  induction later with
  | nil => exact proper
  | cons x rest ih => exact ih proper.tail

theorem started_of_sent {n : Nat} {d : Datagram} {history : List Occurrence} (proper : Proper history)
    (sent : .sent n d ∈ history) : .started n d.recipient ∈ history := by
  obtain ⟨later, earlier, rfl⟩ := List.append_of_mem sent
  cases proper.suffix with
  | sent since => exact List.mem_append_right _ (List.mem_cons_of_mem _ since.mem)

theorem client_unique {n : Nat} {client other : SocketAddress} {history : List Occurrence}
    (proper : Proper history) (left : .started n client ∈ history)
    (right : .started n other ∈ history) : client = other := by
  -- Over the history: the newest start is of a handshake that has not started before.
  induction proper with
  | nil => cases left
  | cleared _ ih =>
    exact ih ((List.mem_cons.mp left).resolve_left (by simp))
      ((List.mem_cons.mp right).resolve_left (by simp))
  | sent _ _ ih =>
    exact ih ((List.mem_cons.mp left).resolve_left (by simp))
      ((List.mem_cons.mp right).resolve_left (by simp))
  | started new _ ih =>
    rcases List.mem_cons.mp left with first | before
    · cases first
      rcases List.mem_cons.mp right with second | before
      · cases second
        rfl
      · exact absurd before (new other)
    · rcases List.mem_cons.mp right with second | before'
      · cases second
        exact absurd before (new client)
      · exact ih before before'

theorem started_after_cleared {n k : Nat} {d : Datagram} {later middle earlier : List Occurrence}
    (proper : Proper (later ++ .sent n d :: (middle ++ .cleared k :: earlier))) :
    .started n d.recipient ∈ middle := by
  cases proper.suffix with
  | sent since => exact since.mem_of_cleared

end Proper

/-- What isolation is about; everything else of a system may change without touching it. -/
structure Scene where
  threads : List Thread
  handle : Option Nat
  destination : Option SocketAddress
  handshakes : Nat
  history : List Occurrence

def System.scene (s : System) : Scene :=
  ⟨s.threads, s.handle, s.server.pairing.destination, s.handshakes, s.history⟩

/-- Between the join that a handshake begins with and the thread that it starts. -/
def Phase.isAlone : Phase → Bool
  | ending | preparing | replying | connecting | starting => true
  | locking | stopping | joining | beginning => false

namespace Scene

structure Below (n : Nat) (s : Scene) : Prop where
  threads (t : Thread) (present : t ∈ s.threads) : t.handshake < n
  started (k : Nat) (client : SocketAddress) (present : .started k client ∈ s.history) : k < n

structure Safe (s : Scene) : Prop where
  held (t : Thread) (present : t ∈ s.threads) (alive : t.isAlive = true) : s.handle = some t.handshake
  distinct : (s.threads.map Thread.handshake).Nodup
  aimed (t : Thread) (present : t ∈ s.threads) (alive : t.isAlive = true) :
    ∃ client, s.destination = some client ∧ Since t.handshake client s.history
  below : s.Below s.handshakes
  proper : Proper s.history

structure Expects (s : Scene) (r : Request) : Prop where
  number : r.number < s.handshakes
  pending (before : r.phase ≠ .beginning) : s.Below r.number
  alone (alone : r.phase.isAlone = true) : s.handle = none
  connected (ready : r.phase = .starting) : s.destination = some r.client

variable {s : Scene}

theorem Below.mono {n m : Nat} (below : s.Below n) (le : n ≤ m) : s.Below m where
  threads t present := Nat.lt_of_lt_of_le (below.threads t present) le
  started k client present := Nat.lt_of_lt_of_le (below.started k client present) le

theorem Below.push {n : Nat} (below : s.Below n) {x : Occurrence}
    (other : ∀ k client, x ≠ .started k client) : Below n { s with history := x :: s.history } where
  threads := below.threads
  started k client present :=
    below.started k client ((List.mem_cons.mp present).resolve_left (other k client).symm)

theorem mem_of_put {threads : List Thread} {t u : Thread}
    (there : u ∈ threads.map fun other => if other.handshake = t.handshake then t else other) :
    u = t ∨ u ∈ threads := by
  obtain ⟨other, old, rfl⟩ := List.mem_map.mp there
  split
  · exact .inl rfl
  · exact .inr old

theorem Below.put {n : Nat} (below : s.Below n) {t t' : Thread} (present : t ∈ s.threads)
    (same : t'.handshake = t.handshake) :
    Below n { s with
      threads := s.threads.map fun other => if other.handshake = t'.handshake then t' else other } where
  threads u there := by
    rcases mem_of_put there with rfl | old
    · rw [same]
      exact below.threads t present
    · exact below.threads u old
  started := below.started

theorem Below.detached {n : Nat} (below : s.Below n) (running : Bool) :
    Below n { s with threads := s.threads.map (Thread.detach running) } where
  threads u there := by
    obtain ⟨t, present, rfl⟩ := List.mem_map.mp there
    exact below.threads t present
  started := below.started

theorem Safe.not_alive (safe : s.Safe) (free : s.handle = none) {t : Thread} (present : t ∈ s.threads) :
    t.isAlive = false := by
  cases alive : t.isAlive with
  | false => rfl
  | true => cases free.symm.trans (safe.held t present alive)

theorem Expects.advance {r : Request} {phase : Phase} (expects : s.Expects r)
    (before : r.phase ≠ .beginning) (alone : phase.isAlone = true → s.handle = none)
    (connected : phase = .starting → s.destination = some r.client) :
    s.Expects { r with phase } where
  number := expects.number
  pending _ := expects.pending before
  alone := alone
  connected := connected

theorem Expects.of_threads {r : Request} (expects : s.Expects r) {threads : List Thread}
    {history : List Occurrence}
    (below : s.Below r.number → Below r.number { s with threads, history }) :
    Expects { s with threads, history } r where
  number := expects.number
  pending before := below (expects.pending before)
  alone := expects.alone
  connected := expects.connected

/-- A handshake that is alone stays so while it does not start its thread. -/
theorem Expects.onward {r : Request} {phase : Phase} (expects : s.Expects r)
    (alone : r.phase.isAlone = true) (unready : phase ≠ .starting) : s.Expects { r with phase } := by
  refine expects.advance ?_ (fun _ => expects.alone alone) fun ready => absurd ready unready
  intro beginning
  rw [beginning] at alone
  cases alone

theorem Safe.put (safe : s.Safe) {t t' : Thread} (present : t ∈ s.threads)
    (same : t'.handshake = t.handshake) (alive : t.isAlive = true) :
    Safe { s with
      threads := s.threads.map fun other => if other.handshake = t'.handshake then t' else other } := by
  have numbers : (s.threads.map fun other =>
      if other.handshake = t'.handshake then t' else other).map Thread.handshake =
        s.threads.map Thread.handshake := by
    rw [List.map_map]
    refine List.map_congr_left fun other _ => ?_
    simp only [Function.comp]
    split
    · rename_i equal
      exact equal.symm
    · rfl
  constructor
  -- A thread of the new list is the new one, whose predecessor was alive, or an old one.
  · intro u there living
    rcases mem_of_put there with rfl | old
    · rw [same]
      exact safe.held t present alive
    · exact safe.held u old living
  · rw [numbers]
    exact safe.distinct
  · intro u there living
    rcases mem_of_put there with rfl | old
    · rw [same]
      exact safe.aimed t present alive
    · exact safe.aimed u old living
  · exact safe.below.put present same
  · exact safe.proper

theorem Safe.cleared (safe : s.Safe) (n : Nat) (dead : ∀ t ∈ s.threads, t.isAlive = false) :
    Safe { s with handle := none, history := .cleared n :: s.history } where
  held t present alive := absurd alive (by simp [dead t present])
  distinct := safe.distinct
  aimed t present alive := absurd alive (by simp [dead t present])
  below :=
    let below := safe.below.push fun k client => by simp
    ⟨below.threads, below.started⟩
  proper := .cleared safe.proper

theorem Safe.connected (safe : s.Safe) (free : s.handle = none) (destination : Option SocketAddress) :
    Safe { s with destination } where
  held := safe.held
  distinct := safe.distinct
  aimed t present alive := absurd alive (by simp [safe.not_alive free present])
  below := ⟨safe.below.threads, safe.below.started⟩
  proper := safe.proper

theorem Safe.sent (safe : s.Safe) {t : Thread} {d : Datagram} (present : t ∈ s.threads)
    (alive : t.isAlive = true) (sent : s.destination = some d.recipient) :
    Safe { s with history := .sent t.handshake d :: s.history } where
  held := safe.held
  distinct := safe.distinct
  aimed u there living := by
    obtain ⟨client, destination, since⟩ := safe.aimed u there living
    exact ⟨client, destination, .sent since⟩
  below := safe.below.push fun k client => by simp
  proper := by
    obtain ⟨client, destination, since⟩ := safe.aimed t present alive
    cases destination.symm.trans sent
    exact .sent since safe.proper

theorem Safe.detached (safe : s.Safe) (free : s.handle = none) (running : Bool) :
    Safe { s with threads := s.threads.map (Thread.detach running) } := by
  have dead (u : Thread) (there : u ∈ s.threads.map (Thread.detach running)) : u.isAlive = false := by
    obtain ⟨t, present, rfl⟩ := List.mem_map.mp there
    have dead : t.isAlive = false := safe.not_alive free present
    exact dead
  constructor
  · intro u there alive
    exact absurd alive (by simp [dead u there])
  · have numbers : (s.threads.map (Thread.detach running)).map Thread.handshake =
        s.threads.map Thread.handshake := by
      rw [List.map_map]
      rfl
    rw [numbers]
    exact safe.distinct
  · intro u there alive
    exact absurd alive (by simp [dead u there])
  · exact safe.below.detached running
  · exact safe.proper

theorem Safe.started (safe : s.Safe) {r : Request} (expects : s.Expects r) (ready : r.phase = .starting)
    {t : Thread} (number : t.handshake = r.number) :
    Safe { s with
      threads := s.threads ++ [t]
      handle := some r.number
      history := .started r.number r.client :: s.history } := by
  have free : s.handle = none := expects.alone (by rw [ready]; rfl)
  have below : s.Below r.number := expects.pending (by rw [ready]; decide)
  have only {u : Thread} (there : u ∈ s.threads ++ [t]) (alive : u.isAlive = true) : u = t := by
    rcases List.mem_append.mp there with old | new
    · exact absurd alive (by simp [safe.not_alive free old])
    · exact List.mem_singleton.mp new
  constructor
  -- The other threads are dead, so all that is asked of a thread is asked of the new one.
  · intro u there alive
    rw [only there alive, number]
  · rw [List.map_append, List.nodup_append]
    refine ⟨safe.distinct, by simp, ?_⟩
    intro n old m new
    obtain ⟨u, present, rfl⟩ := List.mem_map.mp old
    have less := below.threads u present
    simp only [List.map_cons, List.map_nil, List.mem_singleton] at new
    omega
  · intro u there alive
    refine ⟨r.client, expects.connected ready, ?_⟩
    rw [only there alive, number]
    exact .here
  · constructor
    · intro u there
      rcases List.mem_append.mp there with old | new
      · exact safe.below.threads u old
      · rw [List.mem_singleton.mp new, number]
        exact expects.number
    · intro k client there
      rcases List.mem_cons.mp there with new | old
      · cases new
        exact expects.number
      · exact safe.below.started k client old
  · refine .started (fun other there => ?_) safe.proper
    exact Nat.lt_irrefl _ (below.started r.number other there)

end Scene

section Steady

variable {σ : Type} (backend : Device σ) (s : Server σ)

theorem onDevice_destination (operation : EStateM Capture.Fault σ Unit) :
    (Handler.after (Handler.onDevice operation s)).pairing.destination = s.pairing.destination := by
  cases result : operation s.pairing.device with
  | ok done device =>
    rw [Handler.onDevice_ok result]
    rfl
  | error fault device =>
    rw [Handler.onDevice_error result]
    rfl

theorem respond_destination (c : Circumstances) (request : Wire.Settings) (sender : SocketAddress) :
    (Handler.after (Handshake.respond backend c request sender s)).pairing.destination =
      s.pairing.destination := by
  cases answers : Handshake.answer request (backend.advertised s.pairing.device) s.commandPort with
  | error e =>
    rw [Handshake.respond_refused answers]
    rfl
  | ok settings =>
    cases reply : c.reply with
    | some e =>
      rw [Handshake.respond_lost answers reply]
      rfl
    | none =>
      rw [Handshake.respond_ok answers reply]
      rfl

theorem carryOut_destination (command : Wire.Command) :
    (Handler.after (Control.carryOut backend command s)).pairing.destination =
      s.pairing.destination := by
  have carried := Control.carryOut_carried backend command s
  generalize Control.carryOut backend command s = r at carried
  cases carried <;> rfl

end Steady

namespace System

theorem scene_of_destination {s : System} {server : Server Tone}
    (kept : server.pairing.destination = s.server.pairing.destination) :
    System.scene { s with server } = s.scene := by
  unfold scene
  rw [← kept]

structure Safe (s : System) : Prop where
  scene : s.scene.Safe
  request (r : Request) (present : s.request = some r) : s.scene.Expects r

namespace Safe

variable {s s' : System}

theorem of_same (safe : s.Safe) (same : s'.scene = s.scene)
    (request : ∀ r, s'.request = some r → s.scene.Expects r) : s'.Safe where
  scene := same ▸ safe.scene
  request r present := same ▸ request r present

theorem of_released (safe : s.Safe) (same : s'.scene = s.scene) (released : s'.request = none) :
    s'.Safe :=
  safe.of_same same fun r present => by cases released.symm.trans present

theorem advance (safe : s.Safe) {r : Request} {phase : Phase} (same : s'.scene = s.scene)
    (request : s'.request = some { r with phase }) (expects : s.scene.Expects { r with phase }) :
    s'.Safe :=
  safe.of_same same fun _ present => by
    cases request.symm.trans present
    exact expects

theorem attempt (safe : s.Safe) {r : Request} {phase : Phase} {operation : Handler Tone Unit}
    (steady : (Handler.after (operation s.server)).pairing.destination = s.server.pairing.destination)
    (expects : s.scene.Expects { r with phase }) : (attempt r s phase operation).Safe := by
  unfold System.attempt
  cases result : operation s.server with
  | ok done server =>
    rw [result] at steady
    exact safe.advance (scene_of_destination steady) rfl expects
  | error fault server =>
    rw [result] at steady
    exact safe.of_released (scene_of_destination steady) rfl

theorem not_alive_of_not_awaits (safe : s.Safe) (free : s.awaits = false) {t : Thread}
    (present : t ∈ s.threads) : t.isAlive = false := by
  cases alive : t.isAlive with
  | false => rfl
  | true =>
    have held : s.handle = some t.handshake := safe.scene.held t present alive
    have waits : s.awaits = true :=
      List.any_eq_true.mpr ⟨t, present, by rw [held, alive, beq_self_eq_true]; rfl⟩
    cases free.symm.trans waits

theorem join (safe : s.Safe) {r : Request} (present : s.request = some r) (phase : r.phase = .joining) :
    (join r s).Safe := by
  have expects := safe.request r present
  unfold System.join
  cases awaits : s.awaits with
  | true => exact safe
  | false =>
    have cleared := safe.scene.cleared r.number fun t there => safe.not_alive_of_not_awaits awaits there
    refine ⟨cleared, fun r' present' => ?_⟩
    cases present'
    have below := (expects.pending (by rw [phase]; decide)).push (x := .cleared r.number)
      fun k client => by simp
    exact {
      number := expects.number
      pending := fun _ => ⟨below.threads, below.started⟩
      alone := fun _ => rfl
      connected := fun ready => by cases ready }

theorem connect (safe : s.Safe) {r : Request} (present : s.request = some r)
    (phase : r.phase = .connecting) :
    (System.attempt r s .starting (Handshake.connect r.circumstances r.client)).Safe := by
  have expects := safe.request r present
  have free : s.handle = none := expects.alone (by rw [phase]; rfl)
  unfold System.attempt
  cases connected : r.circumstances.connect with
  | some e =>
    rw [Handshake.connect_error connected]
    exact safe.of_released rfl rfl
  | none =>
    rw [Handshake.connect_ok connected]
    refine ⟨safe.scene.connected free (some r.client), fun r' present' => ?_⟩
    cases present'
    have below := expects.pending (by rw [phase]; decide)
    exact {
      number := expects.number
      pending := fun _ => ⟨below.threads, below.started⟩
      alone := fun _ => free
      connected := fun _ => rfl }

theorem spawn (safe : s.Safe) {r : Request} (present : s.request = some r)
    (phase : r.phase = .starting) : (System.spawn r s).Safe := by
  have expects := safe.request r present
  have free : s.handle = none := expects.alone (by rw [phase]; rfl)
  unfold System.spawn
  split
  · exact safe.of_released rfl rfl
  split
  · exact safe
  -- The handle is free, so dropping it changes nothing, and no thread tests a flag any more.
  have detached : Scene.Safe { s.scene with
      threads := s.threads.map (Thread.detach s.tone.running), handle := none } := by
    have unheld : s.scene = { s.scene with handle := none } := by
      unfold System.scene
      rw [free]
    exact (unheld ▸ safe.scene).detached rfl s.tone.running
  have expects' : Scene.Expects { s.scene with
      threads := s.threads.map (Thread.detach s.tone.running), handle := none } r := {
    number := expects.number
    pending := fun before =>
      let below := (expects.pending before).detached s.tone.running
      ⟨below.threads, below.started⟩
    alone := fun _ => rfl
    connected := expects.connected }
  simp only
  split
  · exact ⟨detached, fun r' present' => by cases present'⟩
  · rename_i tone started
    obtain ⟨run, begun⟩ := Tone.run_of_start started
    refine ⟨?_, fun r' present' => ?_⟩
    · have safe' := detached.started expects' phase (t := { handshake := r.number, run }) rfl
      simp only [begun, Option.toList, List.map_cons, List.map_nil]
      exact safe'
    · cases present'
      exact {
        number := expects.number
        pending := fun before => absurd rfl before
        alone := fun alone => by cases alone
        connected := fun ready => by cases ready }

theorem handshake (safe : s.Safe) : s.stepHandshake.Safe := by
  unfold stepHandshake
  cases present : s.request with
  | none => exact safe
  | some r =>
    have expects := safe.request r present
    simp only
    cases phase : r.phase with
    | locking =>
      simp only
      split
      · exact safe
      · refine safe.advance rfl rfl (expects.advance (by rw [phase]; decide) ?_ ?_) <;> intro h <;> cases h
    | stopping =>
      refine safe.advance rfl rfl (expects.advance (by rw [phase]; decide) ?_ ?_) <;> intro h <;> cases h
    | joining => exact safe.join present phase
    | ending =>
      exact safe.advance rfl rfl (expects.onward (by rw [phase]; rfl) (by decide))
    | preparing =>
      have next : s.scene.Expects { r with phase := .replying } :=
        expects.onward (by rw [phase]; rfl) (by decide)
      exact safe.attempt (onDevice_destination _ _) next
    | replying =>
      have next : s.scene.Expects { r with phase := .connecting } :=
        expects.onward (by rw [phase]; rfl) (by decide)
      exact safe.attempt (respond_destination _ _ _ _ _) next
    | connecting => exact safe.connect present phase
    | starting => exact safe.spawn present phase
    | beginning => exact safe.of_released rfl rfl

theorem ask (safe : s.Safe) (c : Circumstances) (spawn : Option OsError) (packet : List UInt8)
    (sender : SocketAddress) : (s.ask c spawn packet sender).Safe := by
  have kept : (s.server.opened .control packet).pairing.destination = s.server.pairing.destination := by
    rw [Server.opened, Server.setWorker_pairing]
  unfold System.ask
  split
  · exact safe
  · rename_i idle
    rw [Handshake.read_eq]
    cases Handshake.requestIn s.server.control.framer.codec.key packet with
    | error e =>
      exact safe.of_released (scene_of_destination kept) (by simpa using idle)
    | ok asked =>
      have below : s.scene.Below (s.handshakes + 1) := safe.scene.below.mono (Nat.le_succ _)
      refine ⟨⟨safe.scene.held, safe.scene.distinct, ?_, ⟨below.threads, below.started⟩,
        safe.scene.proper⟩, fun r present => ?_⟩
      · intro t present alive
        obtain ⟨client, aimed, since⟩ := safe.scene.aimed t present alive
        exact ⟨client, kept.trans aimed, since⟩
      · cases present
        exact {
          number := Nat.lt_succ_self _
          pending := fun _ => ⟨safe.scene.below.threads, safe.scene.below.started⟩
          alone := fun alone => by cases alone
          connected := fun ready => by cases ready }

theorem of_command (safe : s.Safe) (same : s'.scene = s.scene) (request : s'.request = s.request) :
    s'.Safe :=
  safe.of_same same fun r present => safe.request r (request.symm.trans present)

theorem order (safe : s.Safe) (c : Circumstances) (packet : List UInt8) (sender : SocketAddress) :
    (s.receiveOrder c packet sender).Safe := by
  have kept : (s.server.opened .command packet).pairing.destination = s.server.pairing.destination := by
    rw [Server.opened, Server.setWorker_pairing]
  unfold System.receiveOrder
  split
  · exact safe
  · rw [Control.read_eq]
    cases Control.commandIn s.server.command.framer.codec.key packet with
    | error e => exact safe.of_command (scene_of_destination kept) rfl
    | ok command => exact safe.of_command (scene_of_destination kept) rfl

theorem lockFor (safe : s.Safe) (o : Order) (duty : Duty) : (s.lockFor o duty).Safe := by
  unfold System.lockFor
  split
  · exact safe
  · exact safe.of_command rfl rfl

theorem command (safe : s.Safe) : s.stepCommand.Safe := by
  unfold stepCommand
  cases s.order with
  | none => exact safe
  | some o =>
    simp only
    cases o.duty with
    | locking => exact safe.lockFor o .carrying
    | carrying =>
      have kept := carryOut_destination Tone.device s.server o.command
      simp only
      cases carried : Control.carryOut Tone.device o.command s.server with
      | error fault server =>
        rw [carried] at kept
        exact safe.of_command (scene_of_destination kept) rfl
      | ok done server =>
        rw [carried] at kept
        exact safe.of_command (scene_of_destination kept) rfl
    | acknowledging =>
      simp only [Handler.sealPacket_eq]
      cases o.circumstances.ack with
      | none => exact safe.of_command rfl rfl
      | some e => exact safe.of_command rfl rfl
    | relocking => exact safe.lockFor o .silencing
    | silencing => exact safe.of_command rfl rfl

theorem put (safe : s.Safe) {t t' : Thread} (present : t ∈ s.threads)
    (same : t'.handshake = t.handshake) (alive : t.isAlive = true) : (s.put t').Safe := by
  refine ⟨safe.scene.put present same alive, fun r there => ?_⟩
  exact (safe.request r there).of_threads fun below => below.put present same

/-- A thread that is alive sends to where the socket is connected. -/
theorem sent (safe : s.Safe) {t : Thread} {recipient : SocketAddress} {packet : List UInt8}
    (present : t ∈ s.threads) (alive : t.isAlive = true)
    (destination : s.server.pairing.destination = some recipient) :
    System.Safe { s with
      server := { s.server with sent := s.server.sent ++ [⟨recipient, packet⟩] }
      history := .sent t.handshake ⟨recipient, packet⟩ :: s.history } := by
  refine ⟨safe.scene.sent present alive destination, fun r there => ?_⟩
  exact (safe.request r there).of_threads fun below => below.push fun k client => by simp

theorem turn (safe : s.Safe) {t : Thread} (present : t ∈ s.threads) (send : Option OsError) :
    (s.turn t send).Safe := by
  have alive (awake : t.stage ≠ .ended) : t.isAlive = true := decide_eq_true awake
  unfold System.turn
  cases stage : t.stage with
  | testing => exact safe.put present rfl (alive (by rw [stage]; decide))
  | sleeping => exact safe.put present rfl (alive (by rw [stage]; decide))
  | listening => exact safe.put present rfl (alive (by rw [stage]; decide))
  | building => exact safe.put present rfl (alive (by rw [stage]; decide))
  | calling chunk =>
    have living := alive (by rw [stage]; simp)
    have sealing : (s.server.sealChunk chunk).2.pairing = s.server.pairing := rfl
    simp only
    cases result : s.server.sealChunk chunk with
    | mk outcome server =>
      rw [result] at sealing
      have same : System.Safe { s with server } :=
        safe.of_command (scene_of_destination (congrArg _ sealing)) rfl
      cases outcome with
      | error e => exact same.put present rfl living
      | ok packet => exact same.put present rfl living
  | sending packet =>
    have living := alive (by rw [stage]; simp)
    simp only [Server.transmit]
    cases destination : s.server.pairing.destination with
    | none => exact put safe present rfl living
    | some recipient =>
      cases send with
      | some e => exact put safe present rfl living
      | none => exact put (safe.sent present living destination) present rfl living
  | ended => exact safe

theorem thread (safe : s.Safe) (handshake : Nat) (send : Option OsError) :
    (s.stepThread handshake send).Safe := by
  unfold stepThread
  cases found : s.threads.find? fun t => t.handshake == handshake with
  | none => exact safe
  | some t => exact safe.turn (List.mem_of_find?_eq_some found) send

theorem step (safe : s.Safe) (move : Move) : (s.step move).Safe := by
  cases move with
  | ask c spawn packet sender => exact safe.ask c spawn packet sender
  | handshake => exact safe.handshake
  | order c packet sender => exact safe.order c packet sender
  | command => exact safe.command
  | thread handshake send => exact safe.thread handshake send

theorem run (safe : s.Safe) (moves : List Move) : (s.run moves).Safe := by
  -- Over the moves, for every safe system: each leaves one behind.
  induction moves generalizing s with
  | nil => exact safe
  | cons move rest ih => exact ih (safe.step move)

theorem initial (key : Key) (format : Format) (commandPort : UInt16)
    (frequency amplitude : Audio.Binary32) (ivs : IvSource) :
    (System.initial key format commandPort frequency amplitude ivs).Safe where
  scene := {
    held := fun _ present => by cases present
    distinct := List.nodup_nil
    aimed := fun _ present => by cases present
    below := ⟨fun _ present => (by cases present), fun _ _ present => (by cases present)⟩
    proper := .nil }
  request _ present := by cases present

end Safe

/-- What a client may rely on when it takes a stream over, and when its own is taken. -/
structure Isolated (s : System) : Prop where
  /-- A chunk goes to the client of the handshake that began the run which made it. -/
  aimed (n : Nat) (d : Datagram) (sent : .sent n d ∈ s.history) :
    .started n d.recipient ∈ s.history ∧
      ∀ client, .started n client ∈ s.history → client = d.recipient
  single : (s.threads.filter Thread.isAlive).length ≤ 1
  /-- Whoever gets a chunk after the stop of a handshake has returned has had the capture started
  for it since then, by a handshake of its own. -/
  fenced (later middle earlier : List Occurrence) (n k : Nat) (d : Datagram)
    (order : s.history = later ++ .sent n d :: (middle ++ .cleared k :: earlier)) :
    .started n d.recipient ∈ middle

theorem Safe.single {s : System} (safe : s.Safe) : (s.threads.filter Thread.isAlive).length ≤ 1 := by
  have held (t : Thread) (present : t ∈ s.threads.filter Thread.isAlive) :
      s.handle = some t.handshake := by
    obtain ⟨there, alive⟩ := List.mem_filter.mp present
    exact safe.scene.held t there alive
  have distinct : ((s.threads.filter Thread.isAlive).map Thread.handshake).Nodup :=
    safe.scene.distinct.sublist (List.filter_sublist.map Thread.handshake)
  generalize s.threads.filter Thread.isAlive = living at held distinct
  -- Two living threads would both be the one that the capture has to join.
  match living with
  | [] => exact Nat.zero_le 1
  | [_] => exact Nat.le_refl 1
  | t :: u :: rest =>
    have left := held t List.mem_cons_self
    have right := held u (List.mem_cons_of_mem t List.mem_cons_self)
    have same : t.handshake = u.handshake := Option.some.inj (left.symm.trans right)
    simp [same] at distinct

/-- In every interleaving of the handlers and the capture threads, whatever clients there are and
whatever fails. -/
theorem isolated (key : Key) (format : Format) (commandPort : UInt16)
    (frequency amplitude : Audio.Binary32) (ivs : IvSource) (moves : List Move) :
    ((initial key format commandPort frequency amplitude ivs).run moves).Isolated := by
  have safe := (Safe.initial key format commandPort frequency amplitude ivs).run moves
  exact {
    aimed := fun n d sent =>
      have started := safe.scene.proper.started_of_sent sent
      ⟨started, fun client other => safe.scene.proper.client_unique other started⟩
    single := safe.single
    fenced := fun later middle earlier n k d order => by
      have proper : Proper ((initial key format commandPort frequency amplitude ivs).run moves).history :=
        safe.scene.proper
      rw [order] at proper
      exact proper.started_after_cleared }

end System

end PairedAudio.Takeover
