import PairedAudio.Proofs.Takeover.System

/-! The small steps are those of the handlers and of the tone.

A handler whose steps nobody comes between leaves the server that it leaves in one piece, and a
thread that passes once through its loop makes the chunk that the tone makes next.
-/

set_option autoImplicit false

namespace PairedAudio.Takeover

open Capture (Tone ToneRun)

/-- What a handshake still has to do, in one piece. -/
def Request.rest (r : Request) (phase : Phase) : Handler Tone Unit :=
  let dropRun (s : Server Tone) : Server Tone := s.withDevice { s.pairing.device with run := none }
  let dropSession (s : Server Tone) : Server Tone :=
    { s with pairing := { s.pairing with session := none } }
  let beginning := modify (Handshake.begin r.circumstances r.client)
  let starting := do Handler.onDevice Tone.device.start; beginning
  let connecting := do Handshake.connect r.circumstances r.client; starting
  let replying := do
    Handshake.respond Tone.device r.circumstances r.settings r.sender
    connecting
  let preparing := do Handler.onDevice (Tone.device.prepare (← get).format); replying
  let ending := do modify dropSession; preparing
  let joining := do modify dropRun; ending
  let stopping := do modify (Control.requestStop Tone.device); joining
  match phase with
  | .locking | .stopping => stopping
  | .joining => joining
  | .ending => ending
  | .preparing => preparing
  | .replying => replying
  | .connecting => connecting
  | .starting => starting
  | .beginning => beginning

theorem Request.rest_locking (r : Request) :
    r.rest .locking = Handshake.pair Tone.device r.circumstances r.settings r.port r.sender := rfl

def Phase.left : Phase → Nat
  | locking => 9
  | stopping => 8
  | joining => 7
  | ending => 6
  | preparing => 5
  | replying => 4
  | connecting => 3
  | starting => 2
  | beginning => 1

namespace System

/-- The server that the handshake under way will leave if nobody comes between its steps. -/
def target (s : System) : Server Tone :=
  match s.request with
  | none => s.server
  | some r => Handler.after (r.rest r.phase s.server)

def left (s : System) : Nat := (s.request.map fun r => r.phase.left).getD 0

/-- A handshake under way has nobody to wait for, and its thread can be spawned. -/
structure Alone (s : System) : Prop where
  spawns (r : Request) (present : s.request = some r) : r.spawn = none
  free (r : Request) (present : s.request = some r) (locking : r.phase = .locking) : s.holder = none
  quiet (r : Request) (present : s.request = some r) (unstarted : r.phase ≠ .beginning) :
    s.awaits = false

theorem target_attempt (r : Request) (s : System) (phase : Phase) (operation : Handler Tone Unit) :
    (attempt r s phase operation).target =
      Handler.after ((operation >>= fun _ => r.rest phase) s.server) := by
  unfold attempt
  cases result : operation s.server with
  | ok done server =>
    rw [Handler.bind_ok result]
    rfl
  | error fault server =>
    rw [Handler.bind_error result]
    rfl

theorem target_spawn {r : Request} {s : System} (spawns : r.spawn = none) (quiet : s.awaits = false) :
    (spawn r s).target = Handler.after (r.rest .starting s.server) := by
  have start := Tone.start_eq s.tone
  unfold spawn
  cases format : s.tone.format with
  | none =>
    rw [format] at start
    rw [Request.rest, Handler.bind_error (Handler.onDevice_error start)]
    rfl
  | some f =>
    cases running : s.tone.running with
    | true =>
      rw [format, running] at start
      rw [Request.rest, Handler.bind_error (Handler.onDevice_error start)]
      rfl
    | false =>
      rw [format, running] at start
      have spawned := Tone.start_of_device start
      rw [Request.rest, Handler.bind_ok (Handler.onDevice_ok start)]
      simp only [quiet, spawns, Option.isNone_some, Bool.or_false, Bool.false_eq_true, if_false]
      split
      · rename_i failed
        cases spawned.symm.trans failed
      · rename_i tone started
        cases spawned.symm.trans started
        rfl

theorem target_stepHandshake {s : System} (alone : s.Alone) : s.stepHandshake.target = s.target := by
  -- Each phase does the first operation of what is left, and leaves the others.
  unfold stepHandshake
  cases present : s.request with
  | none => rfl
  | some r =>
    have goal (phase : Phase) (at_ : r.phase = phase) :
        s.target = Handler.after (r.rest phase s.server) := by
      rw [target, present, ← at_]
    simp only
    cases phase : r.phase with
    | locking =>
      rw [goal _ phase, alone.free r present phase]
      rfl
    | stopping =>
      rw [goal _ phase]
      rfl
    | joining =>
      rw [goal _ phase]
      simp only [join, alone.quiet r present (by rw [phase]; decide)]
      rfl
    | ending =>
      rw [goal _ phase]
      rfl
    | preparing => rw [goal _ phase, target_attempt]; rfl
    | replying => rw [goal _ phase, target_attempt]; rfl
    | connecting => rw [goal _ phase, target_attempt]; rfl
    | starting =>
      rw [goal _ phase]
      exact target_spawn (alone.spawns r present) (alone.quiet r present (by rw [phase]; decide))
    | beginning =>
      rw [goal _ phase]
      rfl

inductive Advances (r : Request) (s : System) : Prop
  | ended (released : s.request = none)
  | onward {phase : Phase} (present : s.request = some { r with phase })
      (less : phase.left < r.phase.left) (locked : phase ≠ .locking)
      (quiet : phase ≠ .beginning → s.awaits = false)

theorem advances_attempt {r : Request} {s : System} {phase : Phase} (operation : Handler Tone Unit)
    (less : phase.left < r.phase.left) (locked : phase ≠ .locking) (quiet : s.awaits = false) :
    Advances r (attempt r s phase operation) := by
  unfold attempt
  cases operation s.server with
  | ok done server => exact .onward rfl less locked fun _ => quiet
  | error fault server => exact .ended rfl

theorem advances_spawn {r : Request} {s : System} (quiet : s.awaits = false)
    (phase : r.phase = .starting) : Advances r (spawn r s) := by
  unfold spawn
  split
  · exact .ended rfl
  · simp only [quiet, Bool.false_eq_true, if_false]
    split
    · exact .ended rfl
    · exact .onward rfl (by rw [phase]; decide) (by decide) fun unstarted => absurd rfl unstarted

theorem advances_stepHandshake {s : System} (alone : s.Alone) {r : Request}
    (present : s.request = some r) : Advances r s.stepHandshake := by
  have waits (unstarted : r.phase ≠ .beginning) := alone.quiet r present unstarted
  unfold stepHandshake
  simp only [present]
  cases phase : r.phase with
  | locking =>
    have quiet := waits (by rw [phase]; decide)
    simp only [alone.free r present phase]
    exact .onward rfl (by rw [phase]; decide) (by decide) fun _ => quiet
  | stopping =>
    have quiet := waits (by rw [phase]; decide)
    exact .onward rfl (by rw [phase]; decide) (by decide) fun _ => quiet
  | joining =>
    simp only [join, waits (by rw [phase]; decide)]
    refine .onward rfl (by rw [phase]; decide) (by decide) fun _ => ?_
    simp [awaits, proceed]
  | ending =>
    have quiet := waits (by rw [phase]; decide)
    exact .onward rfl (by rw [phase]; decide) (by decide) fun _ => quiet
  | preparing => exact advances_attempt _ (by rw [phase]; decide) (by decide) (waits (by rw [phase]; decide))
  | replying => exact advances_attempt _ (by rw [phase]; decide) (by decide) (waits (by rw [phase]; decide))
  | connecting => exact advances_attempt _ (by rw [phase]; decide) (by decide) (waits (by rw [phase]; decide))
  | starting => exact advances_spawn (waits (by rw [phase]; decide)) phase
  | beginning => exact .ended rfl

theorem Advances.alone {r : Request} {s : System} (advances : Advances r s) (spawns : r.spawn = none) :
    s.Alone := by
  cases advances with
  | ended released =>
    constructor <;> intro r' present <;> cases released.symm.trans present
  | onward present less locked quiet =>
    constructor <;> intro r' present' <;> cases present.symm.trans present'
    · exact spawns
    · exact fun locking => absurd locking locked
    · exact quiet

theorem Advances.left {r : Request} {s : System} (advances : Advances r s) :
    s.left < r.phase.left := by
  cases advances with
  | ended released =>
    rw [System.left, released]
    cases r.phase <;> decide
  | onward present less locked quiet =>
    rw [System.left, present]
    exact less

/-- Without interference a handshake comes to its end, and leaves what was its target. -/
theorem run_handshake {s : System} (alone : s.Alone) {n : Nat} (enough : s.left ≤ n) :
    (s.run (List.replicate n .handshake)).server = s.target := by
  -- Over the number of steps; the target is what each of them keeps.
  induction n generalizing s with
  | zero =>
    have idle : s.request = none := by
      cases present : s.request with
      | none => rfl
      | some r =>
        rw [left, present] at enough
        cases phase : r.phase <;> simp [phase, Phase.left] at enough
    rw [target, idle]
    rfl
  | succ n ih =>
    rw [List.replicate_succ, run, step, ← target_stepHandshake alone]
    cases present : s.request with
    | none =>
      have idle : s.stepHandshake = s := by rw [stepHandshake, present]
      rw [idle]
      exact ih alone (by rw [left, present]; exact Nat.zero_le n)
    | some r =>
      have advances := advances_stepHandshake alone present
      have less := advances.left
      rw [left, present] at enough
      exact ih (advances.alone (alone.spawns r present)) (Nat.le_of_lt_succ (Nat.lt_of_lt_of_le less enough))

theorem run_ask_handshake {s : System} (idle : s.request = none) (free : s.holder = none)
    (quiet : s.awaits = false) (c : Circumstances) (packet : List UInt8) (sender : SocketAddress) :
    (s.run (.ask c none packet sender :: List.replicate 9 .handshake)).server =
      Handler.after (Handshake.handle Tone.device c packet sender s.server) := by
  rw [run, step]
  cases asked : Handshake.requestIn s.server.control.framer.codec.key packet with
  | error e =>
    have unread : s.ask c none packet sender = { s with server := s.server.opened .control packet } := by
      rw [ask, idle, Handshake.read_eq, asked]
      rfl
    have alone : System.Alone { s with server := s.server.opened .control packet } := by
      constructor <;> intro r present <;> cases idle.symm.trans present
    rw [unread, run_handshake alone (by rw [left, idle]; decide), Handshake.handle_unread asked, target, idle]
    rfl
  | ok found =>
    obtain ⟨settings, port⟩ := found
    let r : Request :=
      { number := s.handshakes, circumstances := c, spawn := none, settings, port, sender }
    let s' : System :=
      { s with server := s.server.opened .control packet, request := some r,
               handshakes := s.handshakes + 1 }
    have read : s.ask c none packet sender = s' := by
      rw [ask, idle, Handshake.read_eq, asked]
      rfl
    have alone : s'.Alone := by
      constructor <;> intro r' present <;> cases present
      · rfl
      · exact fun _ => free
      · exact fun _ => quiet
    have enough : s'.left ≤ 9 := Nat.le_refl 9
    rw [read, run_handshake alone enough, Handshake.handle_read asked]
    exact congrArg (fun pairs => Handler.after (pairs (s.server.opened .control packet)))
      r.rest_locking

theorem run_command_idle {s : System} (idle : s.order = none) (n : Nat) :
    s.run (List.replicate n .command) = s := by
  induction n with
  | zero => rfl
  | succ n ih =>
    have stays : s.stepCommand = s := by rw [stepCommand, idle]
    rw [List.replicate_succ, run, step, stays, ih]

def during (s : System) (o : Order) (server : Server Tone) (holder : Option Worker) (duty : Duty) :
    System :=
  { s with server, holder, order := some { o with duty } }

def ordered (s : System) (server : Server Tone) : System :=
  { s with server, holder := none, order := none }

section During

variable (s : System) (o : Order) (server : Server Tone)

theorem run_ordered (n : Nat) :
    (s.ordered server).run (List.replicate n .command) = s.ordered server :=
  run_command_idle rfl n

theorem stepCommand_locking :
    (s.during o server none .locking).stepCommand = s.during o server (some .command) .carrying := rfl

theorem stepCommand_relocking :
    (s.during o server none .relocking).stepCommand = s.during o server (some .command) .silencing :=
  rfl

theorem stepCommand_silencing :
    (s.during o server (some .command) .silencing).stepCommand =
      s.ordered (Control.silence Tone.device server) := rfl

theorem stepCommand_carrying :
    (s.during o server (some .command) .carrying).stepCommand =
      match Control.carryOut Tone.device o.command server with
      | .error _ server => s.ordered server
      | .ok () server => s.during o server none .acknowledging := by
  simp only [stepCommand, during]
  cases Control.carryOut Tone.device o.command server <;> rfl

theorem stepCommand_acknowledging :
    (s.during o server none .acknowledging).stepCommand = match o.circumstances.ack with
      | none => s.ordered (server.answered .command o.sender o.command.encode)
      | some _ => s.during o (server.sealing .command) none .relocking := by
  simp only [stepCommand, during, Handler.sealPacket_eq]
  cases o.circumstances.ack <;> rfl

theorem run_acknowledging :
    ((s.during o server none .acknowledging).run (List.replicate 3 .command)).server =
      match o.circumstances.ack with
      | none => server.answered .command o.sender o.command.encode
      | some _ => Control.silence Tone.device (server.sealing .command) := by
  rw [List.replicate_succ, run, step, stepCommand_acknowledging]
  cases o.circumstances.ack with
  | none => exact congrArg System.server (run_ordered s _ 2)
  | some e => rfl

end During

theorem run_order_command {s : System} (idle : s.order = none) (free : s.holder = none)
    (c : Circumstances) (packet : List UInt8) (sender : SocketAddress) :
    (s.run (.order c packet sender :: List.replicate 5 .command)).server =
      Handler.after (Control.handle Tone.device c packet sender s.server) := by
  rw [run, step]
  cases asked : Control.commandIn s.server.command.framer.codec.key packet with
  | error e =>
    have unread : s.receiveOrder c packet sender = { s with server := s.server.opened .command packet } := by
      rw [receiveOrder, idle, Control.read_eq, asked]
      rfl
    have still : System.order { s with server := s.server.opened .command packet } = none := idle
    rw [unread, run_command_idle still, Control.handle_unread asked]
    rfl
  | ok command =>
    let o : Order := { circumstances := c, command, sender }
    have read : s.receiveOrder c packet sender =
        s.during o (s.server.opened .command packet) none .locking := by
      rw [receiveOrder, idle, Control.read_eq, asked]
      simp only [during, free]
      rfl
    rw [read, List.replicate_succ, run, step, stepCommand_locking, List.replicate_succ, run, step,
      stepCommand_carrying]
    cases carried : Control.carryOut Tone.device command (s.server.opened .command packet) with
    | error fault server =>
      rw [Control.handle_uncarried asked carried]
      simp only [run_ordered]
      rfl
    | ok done server =>
      rw [Control.handle_carried asked carried]
      simp only [run_acknowledging]
      cases c.ack <;> rfl

/-- The server with the thread that has not been joined yet as a part of its tone. -/
def settled (s : System) : Server Tone :=
  let run := s.handle.bind fun n => (s.threads.find? fun t => t.handshake == n).map Thread.run
  s.server.withDevice { s.tone with run }

theorem find?_put {s : System} {n : Nat} {t t' : Thread}
    (found : s.threads.find? (fun t => t.handshake == n) = some t) (same : t'.handshake = n) :
    (s.put t').threads.find? (fun t => t.handshake == n) = some t' := by
  have number : t.handshake = n := by simpa using List.find?_some found
  have unmoved : (fun t => t.handshake == n) ∘
      (fun other : Thread => if other.handshake = t'.handshake then t' else other) =
        fun t => t.handshake == n := by
    funext other
    simp only [Function.comp]
    split
    · rename_i equal
      rw [equal]
    · rfl
  rw [put, List.find?_map, unmoved, found, Option.map_some, if_pos (number.trans same.symm)]

theorem put_put {s : System} {t t' : Thread} (same : t'.handshake = t.handshake) :
    (s.put t).put t' = s.put t' := by
  have threads : ((s.threads.map fun other => if other.handshake = t.handshake then t else other).map
      fun other => if other.handshake = t'.handshake then t' else other) =
        s.threads.map fun other => if other.handshake = t'.handshake then t' else other := by
    rw [List.map_map]
    refine List.map_congr_left fun other _ => ?_
    simp only [Function.comp, same]
    split
    · rw [if_pos rfl]
    · rfl
  unfold put
  simp only [threads]

section Emission

variable (tone : Tone) (server : Server Tone)

theorem sealChunk_withDevice (chunk : List UInt8) :
    (server.withDevice tone).sealChunk chunk =
      ((server.sealChunk chunk).1, (server.sealChunk chunk).2.withDevice tone) := rfl

theorem transmit_withDevice (send : Option OsError) (packet : List UInt8) :
    (server.withDevice tone).transmit send packet =
      ((server.transmit send packet).1, (server.transmit send packet).2.withDevice tone) := by
  have same : (server.withDevice tone).pairing.destination = server.pairing.destination := rfl
  unfold Server.transmit
  rw [same]
  cases server.pairing.destination <;> cases send <;> rfl

theorem transmit_pairing (send : Option OsError) (packet : List UInt8) :
    (server.transmit send packet).2.pairing = server.pairing := by
  unfold Server.transmit
  cases server.pairing.destination <;> cases send <;> rfl

theorem emitTone_quiet {server : Server Tone} {send : Option OsError}
    (quiet : server.pairing.device.next = (none, server.pairing.device)) :
    (server.emitTone send).2 = server := by
  unfold Server.emitTone
  rw [quiet]

theorem emitTone_of_next {server : Server Tone} {send : Option OsError} {delivery : Capture.Delivery}
    {tone : Tone} (next : server.pairing.device.next = (some delivery, tone)) :
    (server.emitTone send).2 = ((server.withDevice tone).emit send delivery.chunk).2 := by
  unfold Server.emitTone
  rw [next]
  rfl

end Emission

def passing (s : System) (t : Thread) (server : Server Tone) (history : List Occurrence) (run : ToneRun)
    (stage : Stage) : System :=
  put { s with server, history } { t with run, stage }

theorem put_passing (s : System) (t : Thread) (server server' : Server Tone)
    (history history' : List Occurrence) (run run' : ToneRun) (stage stage' : Stage) :
    put { s.passing t server history run stage with server := server', history := history' }
        { t with run := run', stage := stage' } =
      s.passing t server' history' run' stage' :=
  put_put (s := { s with server := server', history := history' }) (t := { t with run, stage }) rfl

section Passing

variable {s : System} {n : Nat} {t : Thread} {server : Server Tone} {history : List Occurrence}
  {run : ToneRun} (send : Option OsError)
  (found : s.threads.find? (fun t => t.handshake == n) = some t)

include found

theorem find?_passing (stage : Stage) :
    (s.passing t server history run stage).threads.find? (fun t => t.handshake == n) =
      some { t with run, stage } := by
  have number : t.handshake = n := by simpa using List.find?_some found
  exact find?_put found number

theorem step_passing (stage : Stage) :
    (s.passing t server history run stage).step (.thread n send) =
      (s.passing t server history run stage).turn { t with run, stage } send := by
  rw [step, stepThread, find?_passing found]

theorem settled_passing (held : s.handle = some n) (stage : Stage) :
    (s.passing t server history run stage).settled =
      server.withDevice { server.pairing.device with run := some run } := by
  have still : (s.passing t server history run stage).handle = some n := held
  rw [settled, still, Option.bind_some, find?_passing found]
  rfl

theorem step_testing (shared : t.flag = none) :
    (s.passing t server history run .testing).step (.thread n send) =
      s.passing t server history run (if server.pairing.device.running then .sleeping else .ended) := by
  rw [step_passing send found, turn]
  simp only [passing, shared, Option.getD_none]
  exact put_put rfl

theorem step_sleeping :
    (s.passing t server history run .sleeping).step (.thread n send) =
      s.passing t server history run .listening := by
  rw [step_passing send found, turn]
  exact put_put rfl

theorem step_listening :
    (s.passing t server history run .listening).step (.thread n send) =
      s.passing t server history run
        (if server.pairing.device.playing && run.listener.isSome then .building else .testing) := by
  rw [step_passing send found, turn]
  exact put_put rfl

theorem step_building :
    (s.passing t server history run .building).step (.thread n send) =
      s.passing t server history run.advance (.calling run.chunk) := by
  rw [step_passing send found, turn]
  exact put_put rfl

theorem step_calling (chunk : List UInt8) :
    (s.passing t server history run (.calling chunk)).step (.thread n send) =
      s.passing t (server.sealChunk chunk).2 history run (match (server.sealChunk chunk).1 with
        | .error _ => .testing
        | .ok packet => .sending packet) := by
  have same : (s.passing t server history run (.calling chunk)).server = server := rfl
  rw [step_passing send found, turn]
  simp only [same]
  cases server.sealChunk chunk with
  | mk outcome sealed =>
    cases outcome with
    | error e => exact put_passing s t server sealed history history run run _ _
    | ok packet => exact put_passing s t server sealed history history run run _ _

theorem step_sending (packet : List UInt8) :
    ∃ history', (s.passing t server history run (.sending packet)).step (.thread n send) =
      s.passing t (server.transmit send packet).2 history' run .testing := by
  have same : (s.passing t server history run (.sending packet)).server = server := rfl
  rw [step_passing send found, turn]
  simp only [same]
  cases server.transmit send packet with
  | mk report sent =>
    cases report with
    | sent datagram =>
      exact ⟨.sent t.handshake datagram :: history,
        put_passing s t server sent history (.sent t.handshake datagram :: history) run run _ _⟩
    | lost => exact ⟨history, put_passing s t server sent history history run run _ _⟩
    | dropped e => exact ⟨history, put_passing s t server sent history history run run _ _⟩

theorem step_ended :
    (s.passing t server history run .ended).step (.thread n send) =
      s.passing t server history run .ended := by
  rw [step_passing send found, turn]

theorem step_begins (shared : t.flag = none) (begins : t.stage = .testing) :
    s.step (.thread n send) =
      s.passing t s.server s.history t.run (if s.tone.running then .sleeping else .ended) := by
  rw [step, stepThread, found]
  simp only [turn, begins, passing, shared, Option.getD_none]

theorem settled_of_find? (held : s.handle = some n) :
    s.settled = s.server.withDevice { s.tone with run := some t.run } := by
  rw [settled, held, Option.bind_some, found]
  rfl

theorem settled_quiet (held : s.handle = some n) (shared : t.flag = none) (begins : t.stage = .testing)
    (quiet : s.tone.running = false ∨ s.tone.playing = false) :
    (s.run (List.replicate 6 (.thread n send))).settled = s.settled := by
  rw [List.replicate_succ, run, step_begins send found shared begins, settled_of_find? found held]
  cases running : s.tone.running with
  | false =>
    simp only [List.replicate, System.run, step_ended send found, Bool.false_eq_true, if_false]
    rw [settled_passing found held]
    rfl
  | true =>
    -- The thread goes round twice in its six steps, and listens in vain each time.
    have awake : s.server.pairing.device.running = true := running
    have paused : s.server.pairing.device.playing = false := by
      rcases quiet with stopped | paused
      · cases running.symm.trans stopped
      · exact paused
    simp only [List.replicate, System.run, step_sleeping send found, step_listening send found,
      step_testing send found shared, awake, paused, Bool.false_and, Bool.false_eq_true, if_false,
      if_true]
    rw [settled_passing found held]
    rfl

theorem settled_sounding (held : s.handle = some n) (shared : t.flag = none)
    (begins : t.stage = .testing) (running : s.tone.running = true) (playing : s.tone.playing = true)
    (listens : t.run.listener.isSome = true) :
    (s.run (List.replicate 6 (.thread n send))).settled =
      ((s.server.withDevice { s.tone with run := some t.run.advance }).emit send t.run.chunk).2 := by
  have awake : s.server.pairing.device.running = true := running
  have heard : (s.server.pairing.device.playing && t.run.listener.isSome) = true := by
    rw [listens, Bool.and_true]
    exact playing
  have sealing : (s.server.sealChunk t.run.chunk).2.pairing = s.server.pairing := rfl
  rw [List.replicate_succ, run, step_begins send found shared begins, running, if_pos rfl, Server.emit,
    sealChunk_withDevice]
  simp only [List.replicate, System.run, step_sleeping send found, step_listening send found, heard,
    step_building send found, step_calling send found, if_true]
  cases result : s.server.sealChunk t.run.chunk with
  | mk outcome server =>
    rw [result] at sealing
    cases outcome with
    | error e =>
      -- A chunk that is dropped leaves one step over, in which the thread tests its flag again.
      have on : server.pairing.device.running = true := by
        rw [sealing]
        exact awake
      simp only [step_testing send found shared, on, if_true]
      rw [settled_passing found held, sealing]
      rfl
    | ok packet =>
      obtain ⟨history, sends⟩ : ∃ history,
          (s.passing t server s.history t.run.advance (.sending packet)).step (.thread n send) =
            s.passing t (server.transmit send packet).2 history t.run.advance .testing :=
        step_sending send found packet
      simp only [sends]
      rw [settled_passing found held, transmit_withDevice, transmit_pairing, sealing]
      rfl

/-- A thread passes once through its loop, and the tone makes its next chunk if it has one. -/
theorem settled_turn (held : s.handle = some n) (shared : t.flag = none) (begins : t.stage = .testing)
    {listener : Capture.Listener} (listens : t.run.listener = some listener)
    (calm : listener.crashes = false) (sane : t.run.crashed = false) :
    (s.run (List.replicate 6 (.thread n send))).settled = (s.settled.emitTone send).2 := by
  by_cases sounds : s.tone.running = true ∧ s.tone.playing = true
  · obtain ⟨running, playing⟩ := sounds
    have next : s.settled.pairing.device.next =
        (some ⟨listener, t.run.chunk⟩, { s.tone with run := some t.run.advance }) := by
      rw [settled_of_find? found held]
      exact Tone.next_sounding running playing rfl listens sane calm
    rw [settled_sounding send found held shared begins running playing (by rw [listens]; rfl),
      emitTone_of_next next, settled_of_find? found held]
    rfl
  · have quiet : s.tone.running = false ∨ s.tone.playing = false := by
      rcases Bool.eq_false_or_eq_true s.tone.running with running | stopped
      · exact .inr (Bool.eq_false_iff.mpr fun playing => sounds ⟨running, playing⟩)
      · exact .inl stopped
    have next : s.settled.pairing.device.next = (none, s.settled.pairing.device) :=
      Tone.next_quiet quiet
    rw [settled_quiet send found held shared begins quiet, emitTone_quiet next]

end Passing

end System

end PairedAudio.Takeover
