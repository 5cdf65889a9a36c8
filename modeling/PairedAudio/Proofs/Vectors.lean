import PairedAudio.Cipher.IvSource.Distinct
import PairedAudio.Proofs.Chunks

/-! Every packet is sealed under a vector of its own, which comes from the supply.

What a server does, and which payloads it sends to whom, does not depend on the vectors that it draws:
a run with another supply is the same run, with each packet sealed under the new vector of the same
draw. So no vector is taken from a datagram, and since every draw is spent on one packet, packets have
different vectors as long as the supply does not repeat itself.
-/

set_option autoImplicit false

namespace PairedAudio

open Capture (Device Fault Tone)
open Cipher (Block IvSource Key)
open Wire (Command Settings)

variable {σ : Type}

/-- What a drawn vector was spent on: a payload, and who got it if the network took the packet. -/
structure Spending where
  plain : List UInt8
  recipient : Option SocketAddress

namespace Spending

def packet (key iv : Block) (spending : Spending) : List Datagram :=
  spending.recipient.toList.map (⟨·, Framer.sealed key iv spending.plain⟩)

/-- The packets sent under vectors that were drawn one after the other, from draw number `n` on. -/
def packets (key : Block) (supply : Nat → Block) : Nat → List Spending → List Datagram
  | _, [] => []
  | n, first :: rest => first.packet key (supply n) ++ packets key supply (n + 1) rest

variable (key : Block) (supply : Nat → Block)

theorem packets_singleton (n : Nat) (spending : Spending) :
    packets key supply n [spending] = spending.packet key (supply n) := List.append_nil _

theorem packets_append (n : Nat) (first rest : List Spending) :
    packets key supply n (first ++ rest) =
      packets key supply n first ++ packets key supply (n + first.length) rest := by
  -- Over the first spendings, from any draw on: each of them takes one draw.
  induction first generalizing n with
  | nil => rfl
  | cons one first ih =>
    have next : n + 1 + first.length = n + (first.length + 1) := by omega
    rw [List.cons_append, packets, packets, ih, List.length_cons, next, List.append_assoc]

theorem vector_of_mem_packets {n : Nat} {spendings : List Spending} {d : Datagram}
    (present : d ∈ packets key supply n spendings) :
    ∃ m, n ≤ m ∧ m < n + spendings.length ∧ Framer.vector d.bytes = supply m := by
  -- Over the spendings: a packet is that of the first draw or of a later one.
  induction spendings generalizing n with
  | nil => cases present
  | cons first rest ih =>
    rw [packets, List.mem_append] at present
    rcases present with own | later
    · obtain ⟨recipient, -, rfl⟩ := List.mem_map.mp own
      exact ⟨n, Nat.le_refl n, by rw [List.length_cons]; omega, Framer.vector_sealed ..⟩
    · obtain ⟨m, low, high, same⟩ := ih later
      exact ⟨m, by omega, by rw [List.length_cons]; omega, same⟩

theorem vectors_nodup {n : Nat} {spendings : List Spending}
    (distinct : ∀ i j, n ≤ i → i < j → j < n + spendings.length → supply i ≠ supply j) :
    ((packets key supply n spendings).map fun d => Framer.vector d.bytes).Nodup := by
  -- Over the spendings: the first packet, if one was sent, has a vector of its own.
  induction spendings generalizing n with
  | nil => exact .nil
  | cons first rest ih =>
    rw [List.length_cons] at distinct
    have later := @ih (n + 1) fun i j low less high => distinct i j (by omega) less (by omega)
    rcases first with ⟨plain, none | recipient⟩
    · exact later
    · rw [packets, packet, Option.toList_some, List.map_singleton, List.singleton_append, List.map_cons,
        List.nodup_cons, Framer.vector_sealed]
      refine ⟨fun repeated => ?_, later⟩
      obtain ⟨d, present, same⟩ := List.mem_map.mp repeated
      obtain ⟨m, low, high, drawn⟩ := vector_of_mem_packets key supply present
      exact distinct n m (Nat.le_refl n) (by omega) (by omega) (same.symm.trans drawn)

end Spending

open Spending (packets)

/-- All of a server that depends on the vectors: their supply, the packets sent, and the bytes of
packets in the scratch buffer. -/
structure Imprint where
  supply : Nat → Block
  sent : List Datagram
  scratch : List UInt8

def Imprint.spend (key : Block) (n : Nat) (spendings : List Spending) (p : Imprint) : Imprint :=
  { p with sent := p.sent ++ packets key p.supply n spendings }

theorem Imprint.spend_nil (key : Block) (n : Nat) (p : Imprint) : p.spend key n [] = p := by
  rw [spend, packets, List.append_nil]

theorem Imprint.spend_lost (key : Block) (n : Nat) (p : Imprint) (plain : List UInt8) :
    p.spend key n [⟨plain, none⟩] = p := by
  have nothing : packets key p.supply n [⟨plain, none⟩] = [] := rfl
  rw [spend, nothing, List.append_nil]

theorem Imprint.spend_append (key : Block) (n : Nat) (first rest : List Spending) (p : Imprint) :
    p.spend key n (first ++ rest) = (p.spend key n first).spend key (n + first.length) rest := by
  rw [spend, Spending.packets_append, ← List.append_assoc]
  rfl

namespace Server

def under (p : Imprint) (s : Server σ) : Server σ :=
  { s with
    ivs := { s.ivs with supply := p.supply }
    sent := p.sent
    audio := { s.audio with scratch := p.scratch } }

section Under

variable (p : Imprint) (s : Server σ) (w : Worker)

theorem store_under (bytes : List UInt8) : (s.under p).store w bytes = (s.store w bytes).under p := by
  cases w <;> rfl

theorem opened_under (packet : List UInt8) :
    (s.under p).opened w packet = (s.opened w packet).under p := by
  cases w <;> rfl

theorem endWorker_under : (s.under p).endWorker w = (s.endWorker w).under p := by
  cases w <;> rfl

theorem worker_under : (s.under p).worker w = s.worker w := by
  cases w <;> rfl

theorem sealing_under : (s.under p).sealing w = (s.sealing w).under p := by
  cases w <;> rfl

theorem answered_under (recipient : SocketAddress) (plain : List UInt8) :
    (s.under p).answered w recipient plain = (s.answered w recipient plain).under
      (p.spend (s.worker w).framer.codec.key s.ivs.drawn [⟨plain, some recipient⟩]) := by
  rw [Imprint.spend, Spending.packets_singleton]
  cases w <;> rfl

theorem unpaired_under (device : σ) : (s.under p).unpaired device = (s.unpaired device).under p := rfl

theorem withDevice_under (device : σ) :
    (s.under p).withDevice device = (s.withDevice device).under p := rfl

theorem aimed_under (client : SocketAddress) : (s.under p).aimed client = (s.aimed client).under p := rfl

theorem begin_under (c : Circumstances) (client : SocketAddress) :
    Handshake.begin c client (s.under p) = (Handshake.begin c client s).under p := rfl

theorem replied_under (device : σ) (sender : SocketAddress) (plain : List UInt8) :
    ((s.under p).unpaired device).answered .control sender plain =
      ((s.unpaired device).answered .control sender plain).under
        (p.spend s.control.framer.codec.key s.ivs.drawn [⟨plain, some sender⟩]) := by
  rw [unpaired_under, answered_under]
  rfl

end Under

end Server

namespace Handler

variable {α : Type}

def mapState (change : Server σ → Server σ) :
    EStateM.Result HandlerFault (Server σ) α → EStateM.Result HandlerFault (Server σ) α
  | .ok value s => .ok value (change s)
  | .error fault s => .error fault (change s)

/-- An operation that spends at most one vector, and in the same way whatever its value. -/
structure Spends (key : Block) (x : Handler σ α) (s : Server σ) (spendings : List Spending) : Prop where
  few : spendings.length ≤ 1
  drawn : (after (x s)).ivs.drawn = s.ivs.drawn + spendings.length
  under (p : Imprint) :
    x (s.under p) = mapState (Server.under (p.spend key s.ivs.drawn spendings)) (x s)

theorem Spends.nothing {key : Block} {x : Handler σ α} {s : Server σ}
    (drawn : (after (x s)).ivs.drawn = s.ivs.drawn)
    (under : ∀ p, x (s.under p) = mapState (Server.under p) (x s)) : Spends key x s [] where
  few := Nat.zero_le 1
  drawn := drawn
  under p := by rw [Imprint.spend_nil, under]

end Handler

open Handler (mapState)

theorem Handshake.Ends.under {backend : Device σ} {c : Circumstances} {request : Settings}
    {port : UInt16} {sender : SocketAddress} {s : Server σ}
    {r : EStateM.Result HandlerFault (Server σ) Unit} (ends : Ends backend c request port sender s r) :
    ∃ spendings, spendings.length ≤ 1 ∧
      (Handler.after r).ivs.drawn = s.ivs.drawn + spendings.length ∧
      ∀ p, Ends backend c request port sender (s.under p) (mapState
        (Server.under (p.spend s.control.framer.codec.key s.ivs.drawn spendings)) r) := by
  -- What an exit needs is said of the backend and the network, which an imprint leaves alone.
  cases ends with
  | unprepared prepared =>
    refine ⟨[], Nat.zero_le 1, rfl, fun p => ?_⟩
    rw [Imprint.spend_nil]
    exact .unprepared prepared
  | unanswerable prepared refused =>
    refine ⟨[], Nat.zero_le 1, rfl, fun p => ?_⟩
    rw [Imprint.spend_nil]
    exact .unanswerable prepared refused
  | @unsent device settings e prepared answers lost =>
    refine ⟨[⟨settings.encode, none⟩], Nat.le_refl 1, rfl, fun p => ?_⟩
    rw [Imprint.spend_lost]
    exact .unsent prepared answers lost
  | @unconnected device settings e prepared answers sent refused =>
    refine ⟨[⟨settings.encode, some sender⟩], Nat.le_refl 1, rfl, fun p => ?_⟩
    rw [mapState, ← Server.replied_under]
    exact .unconnected prepared answers sent refused
  | @unstarted device device' settings fault prepared answers sent connected failed =>
    refine ⟨[⟨settings.encode, some sender⟩], Nat.le_refl 1, rfl, fun p => ?_⟩
    rw [mapState, ← Server.withDevice_under, ← Server.aimed_under, ← Server.replied_under]
    exact .unstarted prepared answers sent connected failed
  | @paired device device' settings prepared answers sent connected started =>
    refine ⟨[⟨settings.encode, some sender⟩], Nat.le_refl 1, rfl, fun p => ?_⟩
    rw [mapState, ← Server.begin_under, ← Server.withDevice_under, ← Server.aimed_under,
      ← Server.replied_under]
    exact .paired prepared answers sent connected started

theorem Handshake.handle_spends (backend : Device σ) (c : Circumstances) (packet : List UInt8)
    (sender : SocketAddress) {key : Key} {s : Server σ} (sound : s.Sound key) :
    ∃ spendings, Handler.Spends key.block (handle backend c packet sender) s spendings := by
  cases asked : requestIn s.control.framer.codec.key packet with
  | error e =>
    refine ⟨[], .nothing ?_ fun p => ?_⟩
    · rw [handle_unread asked]
      rfl
    · rw [handle_unread asked, handle_unread (s := s.under p) asked, Server.opened_under]
      rfl
  | ok found =>
    have opened := (Server.sound_kept backend key).opened .control packet sound
    obtain ⟨spendings, few, drawn, same⟩ :=
      (pair_ends backend c found.1 found.2 sender (s.opened .control packet)).under
    rw [opened.control] at same
    refine ⟨spendings, few, ?_, fun p => ?_⟩
    · rw [handle_read asked, drawn]
      rfl
    · rw [handle_read asked, handle_read (s := s.under p) asked, Server.opened_under]
      exact pair_of_ends (same p)

theorem Handler.onDevice_under (operation : EStateM Fault σ Unit) (p : Imprint) (s : Server σ) :
    onDevice operation (s.under p) = mapState (Server.under p) (onDevice operation s) := by
  have device : (s.under p).pairing.device = s.pairing.device := rfl
  simp only [onDevice, device]
  cases operation s.pairing.device with
  | ok done device => rfl
  | error fault device => cases fault <;> rfl

namespace Control

theorem carryOut_switch_under (backend : Device σ) (playing : Bool) (p : Imprint) (s : Server σ) :
    carryOut backend (switch playing) (s.under p) =
      mapState (Server.under p) (carryOut backend (switch playing) s) := by
  simp only [carryOut_switch_eq, bind, EStateM.bind, Handler.onDevice_under]
  cases Handler.onDevice (backend.setPlaying playing) s <;> rfl

theorem carryOut_under (backend : Device σ) (command : Command) (p : Imprint) (s : Server σ) :
    carryOut backend command (s.under p) = mapState (Server.under p) (carryOut backend command s) := by
  cases command with
  | ping | stop => rfl
  | play => exact carryOut_switch_under backend true p s
  | pause => exact carryOut_switch_under backend false p s

theorem ivs_carryOut (backend : Device σ) (command : Command) (s : Server σ) :
    (Handler.after (carryOut backend command s)).ivs = s.ivs := by
  have carried := carryOut_carried backend command s
  generalize carryOut backend command s = r at carried
  cases carried <;> rfl

theorem handle_spends (backend : Device σ) (c : Circumstances) (packet : List UInt8)
    (sender : SocketAddress) {key : Key} {s : Server σ} (sound : s.Sound key) :
    ∃ spendings, Handler.Spends key.block (handle backend c packet sender) s spendings := by
  cases asked : commandIn s.command.framer.codec.key packet with
  | error e =>
    refine ⟨[], .nothing ?_ fun p => ?_⟩
    · rw [handle_unread asked]
      rfl
    · rw [handle_unread asked, handle_unread (s := s.under p) asked, Server.opened_under]
      rfl
  | ok command =>
    have opened := (Server.sound_kept backend key).opened .command packet sound
    have carrying := carryOut_carried backend command (s.opened .command packet)
    have drawn := ivs_carryOut backend command (s.opened .command packet)
    have same (p : Imprint) := carryOut_under backend command p (s.opened .command packet)
    -- A command draws nothing; the one vector is for its acknowledgement, whoever takes it.
    generalize carried : carryOut backend command (s.opened .command packet) = r at *
    simp only [← Server.opened_under] at same
    cases r with
    | error fault s' =>
      refine ⟨[], .nothing ?_ fun p => ?_⟩
      · rw [handle_uncarried asked carried]
        exact congrArg IvSource.drawn drawn
      · rw [handle_uncarried asked carried, handle_uncarried (s := s.under p) asked (same p)]
        rfl
    | ok done s' =>
      have held : (s'.worker .command).framer.codec.key = key.block := (opened.carried carrying).command
      have before : s'.ivs.drawn = s.ivs.drawn := congrArg IvSource.drawn drawn
      cases ack : c.ack with
      | none =>
        refine ⟨[⟨command.encode, some sender⟩], Nat.le_refl 1, ?_, fun p => ?_⟩
        · rw [handle_carried asked carried, ack, ← before]
          rfl
        · rw [handle_carried asked carried, handle_carried (s := s.under p) asked (same p), ack,
            Server.answered_under, held, before]
          rfl
      | some e =>
        refine ⟨[⟨command.encode, none⟩], Nat.le_refl 1, ?_, fun p => ?_⟩
        · rw [handle_carried asked carried, ack, ← before]
          rfl
        · rw [Imprint.spend_lost, handle_carried asked carried,
            handle_carried (s := s.under p) asked (same p), ack, Server.sealing_under]
          rfl

end Control

namespace Server

variable {backend : Device σ} {key : Key} {s : Server σ}

theorem handle_spends (w : Worker) (c : Circumstances) (packet : List UInt8) (sender : SocketAddress)
    (sound : s.Sound key) :
    ∃ spendings, Handler.Spends key.block (handle backend w c packet sender) s spendings := by
  cases w with
  | command => exact Control.handle_spends backend c packet sender sound
  | control =>
    obtain ⟨spendings, spends⟩ := Handshake.handle_spends backend c packet sender sound
    refine ⟨spendings, spends.few, by rw [after_handle_control, spends.drawn], fun p => ?_⟩
    simp only [handle, bind, EStateM.bind, spends.under]
    cases Handshake.handle backend c packet sender s <;> rfl

theorem settle_under (w : Worker) (p : Imprint) {α : Type}
    (r : EStateM.Result HandlerFault (Server σ) α) :
    settle w (mapState (under p) r) = (settle w r).under p := by
  cases r with
  | ok value s => rfl
  | error fault s =>
    cases fault with
    | failed e => rfl
    | crashed => exact endWorker_under ..

theorem settle_ivs (w : Worker) {α : Type} (r : EStateM.Result HandlerFault (Server σ) α) :
    (settle w r).ivs = (Handler.after r).ivs := by
  cases r with
  | ok value s => rfl
  | error fault s =>
    cases fault with
    | failed e => rfl
    | crashed => exact setWorker_ivs ..

theorem ivs_store (w : Worker) (bytes : List UInt8) : (s.store w bytes).ivs = s.ivs := setWorker_ivs ..

theorem ivs_endWorker (w : Worker) : (s.endWorker w).ivs = s.ivs := setWorker_ivs ..

theorem ivs_shutdown : (s.shutdown backend).ivs = s.ivs := by
  unfold shutdown
  split <;> rfl

theorem shutdown_under (p : Imprint) : (s.under p).shutdown backend = (s.shutdown backend).under p := by
  unfold shutdown
  have closed : (s.under p).closed = s.closed := rfl
  rw [closed]
  split <;> rfl

/-- A change of a server that spends vectors in the same way whatever their values. What lies in the
scratch buffer afterwards does not matter. -/
structure Spends (key : Block) (change : Server σ → Server σ) (s : Server σ) (spendings : List Spending) :
    Prop where
  drawn : (change s).ivs.drawn = s.ivs.drawn + spendings.length
  under (p : Imprint) : p.scratch.length = maximumDatagram →
    ∃ scratch, scratch.length = maximumDatagram ∧ change (s.under p) =
      (change s).under { p.spend key s.ivs.drawn spendings with scratch }

namespace Spends

variable {block : Block} {change next : Server σ → Server σ} {spendings later : List Spending}

theorem of_same (drawn : (change s).ivs.drawn = s.ivs.drawn + spendings.length)
    (same : ∀ p, change (s.under p) = (change s).under (p.spend block s.ivs.drawn spendings)) :
    Spends block change s spendings where
  drawn := drawn
  under p room := ⟨p.scratch, room, same p⟩

theorem nothing (drawn : (change s).ivs.drawn = s.ivs.drawn)
    (same : ∀ p, change (s.under p) = (change s).under p) : Spends block change s [] :=
  .of_same drawn fun p => by rw [Imprint.spend_nil, same]

theorem comp (first : Spends block change s spendings) (second : Spends block next (change s) later) :
    Spends block (fun s => next (change s)) s (spendings ++ later) where
  drawn := by rw [second.drawn, first.drawn, List.length_append, Nat.add_assoc]
  under p room := by
    obtain ⟨middle, roomLater, once⟩ := first.under p room
    obtain ⟨scratch, roomLast, twice⟩ :=
      second.under { p.spend block s.ivs.drawn spendings with scratch := middle } roomLater
    refine ⟨scratch, roomLast, ?_⟩
    rw [once, twice, first.drawn, Imprint.spend_append]
    rfl

end Spends

theorem receive_spends (w : Worker) (c : Circumstances) (arrival : Arrival) (sound : s.Sound key) :
    ∃ spendings, spendings.length ≤ 1 ∧
      Spends key.block (fun s => (s.receive backend w c arrival).2) s spendings := by
  -- The two servers take the same turn: whether a worker is awake, and the server runs, is no imprint.
  have awakeUnder (p : Imprint) : ((s.under p).worker w).ended = (s.worker w).ended :=
    congrArg WorkerState.ended (worker_under p s w)
  cases awake : (s.worker w).ended with
  | true =>
    refine ⟨[], Nat.zero_le 1, .nothing ?_ fun p => ?_⟩
    · rw [receive_ended awake]
    · rw [receive_ended awake, receive_ended ((awakeUnder p).trans awake)]
  | false =>
    have awakeToo (p : Imprint) := (awakeUnder p).trans awake
    cases arrival with
    | failure e =>
      refine ⟨[], Nat.zero_le 1, .nothing ?_ fun p => ?_⟩
      · rw [receive_failure awake]
        split
        · rfl
        · rw [ivs_endWorker]
      · rw [receive_failure awake, receive_failure (awakeToo p), endWorker_under]
        split <;> rfl
    | datagram bytes sender =>
      cases running : s.running with
      | false =>
        refine ⟨[], Nat.zero_le 1, .nothing ?_ fun p => ?_⟩
        · rw [receive_datagram_exiting running awake, ivs_endWorker, ivs_store]
        · rw [receive_datagram_exiting running awake,
            receive_datagram_exiting (s := s.under p) running (awakeToo p), store_under,
            endWorker_under]
      | true =>
        have stored := (sound_kept backend key).store w (bytes.take receiveLength) sound
        obtain ⟨spendings, spends⟩ := handle_spends w c (bytes.take receiveLength) sender stored
        refine ⟨spendings, spends.few, .of_same ?_ fun p => ?_⟩
        · rw [receive_datagram running awake, settle_ivs, spends.drawn, ivs_store]
        · rw [receive_datagram running awake, receive_datagram (s := s.under p) running (awakeToo p),
            store_under, spends.under, settle_under, ivs_store]

theorem emit_spends (send : Option OsError) (chunk : List UInt8) (sound : s.Sound key)
    (room : s.Roomy) :
    ∃ spendings, spendings.length ≤ 1 ∧
      Spends key.block (fun s => (s.emit send chunk).2) s spendings := by
  have emits {t : Server σ} (room : t.Roomy) := (emit_eq_emitTo send chunk t).trans (emitTo_eq room _ _)
  by_cases fits : chunk.length ≤ longestChunk
  · simp only [if_pos fits] at emits
    have bytes (p : Imprint) : (s.under p).chunkPacket chunk =
        Framer.sealed key.block (p.supply s.ivs.drawn) chunk :=
      congrArg (Framer.sealed · (p.supply s.ivs.drawn) chunk) sound.audio
    -- The network treats the packets of both servers alike.
    obtain ⟨recipient, transmits⟩ := exists_transmit_eq send s.pairing.destination
    refine ⟨[⟨chunk, recipient⟩], Nat.le_refl 1, ?_, fun p wide => ?_⟩
    · rw [emits room, transmits _ (s.chunkSealed chunk) rfl]
      rfl
    · refine ⟨_, roomy_chunkSealed (s := s.under p) wide fits, ?_⟩
      rw [emits room, emits (t := s.under p) wide, transmits _ (s.chunkSealed chunk) rfl,
        transmits _ ((s.under p).chunkSealed chunk) rfl, bytes]
      rw [Imprint.spend, Spending.packets_singleton]
      rfl
  · simp only [if_neg fits] at emits
    refine ⟨[], Nat.zero_le 1, ?_, fun p wide => ⟨p.scratch, wide, ?_⟩⟩
    · rw [emits room]
      rfl
    · rw [emits room, emits (t := s.under p) wide, Imprint.spend_nil]

theorem step_spends (backend : Device σ) (event : Event) (sound : s.Sound key) (room : s.Roomy) :
    ∃ spendings, spendings.length ≤ 1 ∧
      Spends key.block (fun s => s.step backend event) s spendings := by
  cases event with
  | arrival w c arrival => exact receive_spends w c arrival sound
  | chunk send bytes => exact emit_spends send bytes sound room
  | shutdown => exact ⟨[], Nat.zero_le 1, .nothing (congrArg IvSource.drawn ivs_shutdown) shutdown_under⟩

theorem run_spends (backend : Device σ) (events : List Event) (sound : s.Sound key) (room : s.Roomy) :
    ∃ spendings, spendings.length ≤ events.length ∧
      Spends key.block (fun s => s.run backend events) s spendings := by
  -- Over the events: the server that a step leaves is sound and has room for the next one.
  induction events generalizing s with
  | nil => exact ⟨[], Nat.le_refl 0, .nothing rfl fun _ => rfl⟩
  | cons event rest ih =>
    obtain ⟨first, one, step⟩ := step_spends backend event sound room
    obtain ⟨later, few, run⟩ :=
      ih ((sound_kept backend key).step event sound) ((roomy_kept backend).step event room)
    refine ⟨first ++ later, ?_, step.comp run⟩
    rw [List.length_append, List.length_cons]
    omega

/-- A server's run comes down to a list of spendings, at most one for each event, which is the same for
every supply of vectors: the draws are spent one after the other, and the packets sent are sealed under
the vectors of their own draws. They all have different vectors if the supply does not repeat itself in
the run. A framer, whatever it has left armed, draws once for a packet, and does not draw for a buffer
that is too small. -/
theorem vectors_drawn_once (backend : Device σ) (config : Config) (device : σ) (commandPort : UInt16)
    (setup : Setup) (drawn : Nat) (events : List Event) :
    (∃ spendings, spendings.length ≤ events.length ∧ ∀ (supply : Nat → Block) (s : Server σ),
      start backend config device commandPort ⟨supply, drawn⟩ setup = .ok s →
      let t := s.run backend events
      t.sent = packets s.key.block supply drawn spendings ∧
      t.ivs = ⟨supply, drawn + spendings.length⟩ ∧
      ((∀ i j, drawn ≤ i → i < j → j < t.ivs.drawn → supply i ≠ supply j) →
        (t.sent.map fun d => Framer.vector d.bytes).Nodup)) ∧
    ∀ (framer : Framer) (plain buffer : List UInt8) (ivs : IvSource),
      let (packet, left) := framer.encodeInto plain buffer ivs
      if buffer.length < Framer.sealedLength plain.length then packet.ivs = ivs
      else packet.ivs = ivs.draw.2 ∧ left.take (Framer.sealedLength plain.length) =
        Framer.sealed framer.codec.key ivs.draw.1 plain := by
  refine ⟨?_, fun framer plain buffer ivs => ?_⟩
  · cases derived : Key.ofSecret config.pairCode with
    | error e =>
      refine ⟨[], Nat.zero_le _, fun supply s started => ?_⟩
      obtain ⟨key, found, -⟩ := eq_initial_of_start started
      cases derived.symm.trans found
    | ok key =>
      -- All runs are compared with one whose supply has a single value.
      let plain := initial backend key config.format commandPort device ⟨fun _ => default, drawn⟩
      have sound : plain.Sound key := .initial ..
      have room : plain.Roomy := List.length_replicate
      obtain ⟨spendings, few, spends⟩ := run_spends backend events sound room
      refine ⟨spendings, few, fun supply s started => ?_⟩
      obtain ⟨key', found, rfl⟩ := eq_initial_of_start started
      cases derived.symm.trans found
      obtain ⟨scratch, -, same⟩ := spends.under ⟨supply, [], plain.audio.scratch⟩ room
      have imprint : initial backend key config.format commandPort device ⟨supply, drawn⟩ =
          plain.under ⟨supply, [], plain.audio.scratch⟩ := rfl
      have count : (plain.run backend events).ivs.drawn = drawn + spendings.length := spends.drawn
      rw [imprint, same]
      intro t
      have sent : t.sent = packets key.block supply drawn spendings := List.nil_append _
      have ivs : t.ivs = ⟨supply, drawn + spendings.length⟩ := congrArg (IvSource.mk supply) count
      refine ⟨sent, ivs, fun distinct => ?_⟩
      rw [ivs] at distinct
      rw [sent]
      exact Spending.vectors_nodup key.block supply distinct
  · rw [Framer.encodeInto_eq]
    by_cases small : buffer.length < Framer.sealedLength plain.length
    · simp only [if_pos small]
    · simp only [if_neg small, true_and]
      exact List.take_left' (Framer.length_sealed ..)

/-- A client that seals under one vector throughout, and a chunk that is too long. -/
theorem vectors_drawn_once_standard_tone :
    let server := Standard.server Tone.device .standard
    let client := Standard.client
    let pinging := Framer.sealed Standard.key.block default Command.ping.encode
    let events : List Event := [
      .arrival .control {} (.datagram [1, 2, 3] client),
      .arrival .control {} (.datagram Standard.request client),
      .chunk none (List.replicate 65488 9),
      .chunk none [1, 2, 3],
      .arrival .command {} (.datagram pinging client)]
    start Tone.device Standard.config .standard 5541 (.seeded default) {} = .ok server ∧
      ((server.run Tone.device events).sent.map fun d => Framer.vector d.bytes).Nodup := by
  intro server client pinging events
  have started : start Tone.device Standard.config .standard 5541 (.seeded default) {} = .ok server :=
    Standard.start ..
  obtain ⟨⟨spendings, few, runs⟩, -⟩ :=
    vectors_drawn_once Tone.device Standard.config .standard 5541 {} 0 events
  obtain ⟨-, ivs, nodup⟩ := runs (IvSource.seeded default).supply server started
  refine ⟨started, nodup fun i j low less high same => ?_⟩
  -- Five draws are far from the end of the counter behind the supply.
  have short : j < 5 := by
    have drawn := congrArg IvSource.drawn ivs
    have count : events.length = 5 := rfl
    simp only at drawn
    omega
  have bound : 5 < Wire.valueCount 16 := by decide
  have equal := IvSource.supply_seeded_inj default (by omega) (by omega) same
  omega

end Server

end PairedAudio
