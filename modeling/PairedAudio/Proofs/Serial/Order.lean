import PairedAudio.Proofs.Run
import PairedAudio.Proofs.Serial.Outline

/-! The handlers are serializable: whatever the two workers do to each other between their locked
parts, the server ends as if it had handled the datagrams whole, one after the other.

The serial order is built along the way. A handshake, and a command that needs no second half, joins
it when it has been handled; a command whose acknowledgement was lost joins it with its second half,
for what its first half did the second undoes, past any handshakes that came between.
-/

set_option autoImplicit false

namespace PairedAudio.Serial

open Audio (Format)
open Capture (Device Status Tone)
open Cipher (Key)
open Wire (Command Settings)

variable {σ : Type} {gauge : Gauge σ} {format : Format}

/-- The two workers between their locked parts, with the datagrams that each has still to handle. What
a worker does on its own goes with the locked part next to it. -/
structure Progress (gauge : Gauge σ) (format : Format) where
  server : Server σ
  handshakes : List (Incoming gauge format)
  commands : List (Incoming gauge format)
  /-- The command whose acknowledgement was lost, and which has still to stop the capture. -/
  late : Option (Incoming gauge format) := none

namespace Progress

def stepControl (p : Progress gauge format) : Progress gauge format :=
  match p.handshakes with
  | [] => p
  | i :: rest => { p with
      server := Handler.after (Handshake.handle i.backend i.circumstances i.packet i.sender p.server)
      handshakes := rest }

def stepCommand (p : Progress gauge format) : Progress gauge format :=
  match p.late, p.commands with
  | some i, _ => { p with server := Control.silence i.backend p.server, late := none }
  | none, [] => p
  | none, i :: rest =>
    let halfway := Control.dispatch i.backend i.circumstances.network i.packet i.sender p.server
    { p with
      server := Handler.after halfway
      commands := rest
      late := if Control.isLost halfway then some i else none }

def step (p : Progress gauge format) : Worker → Progress gauge format
  | .control => p.stepControl
  | .command => p.stepCommand

def run (p : Progress gauge format) : List Worker → Progress gauge format
  | [] => p
  | w :: rest => (p.step w).run rest

structure IsFinished (p : Progress gauge format) : Prop where
  handshakes : p.handshakes = []
  commands : p.commands = []
  late : p.late = none

end Progress

def handleAll (s : Server σ) : List (Worker × Incoming gauge format) → Server σ
  | [] => s
  | (w, i) :: rest =>
    handleAll (Handler.after (Server.handle i.backend w i.circumstances i.packet i.sender s)) rest

def portion (w : Worker) (order : List (Worker × Incoming gauge format)) :
    List (Incoming gauge format) :=
  (order.filter fun entry => entry.1 == w).map Prod.snd

theorem handleAll_append (s : Server σ) (order later : List (Worker × Incoming gauge format)) :
    handleAll s (order ++ later) = handleAll (handleAll s order) later := by
  induction order generalizing s with
  | nil => rfl
  | cons entry rest ih => exact ih _

theorem portion_append (w : Worker) (order later : List (Worker × Incoming gauge format)) :
    portion w (order ++ later) = portion w order ++ portion w later := by
  rw [portion, List.filter_append, List.map_append, portion, portion]

theorem portion_snoc_same (w : Worker) (order : List (Worker × Incoming gauge format))
    (i : Incoming gauge format) : portion w (order ++ [(w, i)]) = portion w order ++ [i] := by
  rw [portion_append]
  simp [portion]

theorem portion_snoc_other {w other : Worker} (differ : other ≠ w)
    (order : List (Worker × Incoming gauge format)) (i : Incoming gauge format) :
    portion w (order ++ [(other, i)]) = portion w order := by
  rw [portion_append]
  simp [portion, differ]

structure Serves (key : Key) (format : Format) (s : Server σ) : Prop where
  sound : s.Sound key
  format : s.format = format

theorem format_kept (backend : Device σ) (format : Format) :
    Server.Kept backend fun s => s.format = format where
  store w bytes s same := by rw [Server.store, Server.setWorker_format, same]
  opened w packet s same := by rw [Server.opened_format, same]
  ended w s same := by simp only [Server.endWorker, Server.setWorker_format, same]
  handshake ends same := by cases ends <;> exact same
  command := by
    intro c command sender s r ends same
    cases ends with
    | failed carried =>
      cases carried
      exact same
    | acknowledged carried | silenced carried => cases carried <;> exact same
  chunk send bytes s same := by
    obtain ⟨audio, ivs, datagrams, -, frame⟩ := Server.emit_frame send bytes s
    rw [frame]
    exact same
  halt same := same
  closed same := same

namespace Serves

variable {key : Key} {s : Server σ}

theorem handle (serves : Serves key format s) (w : Worker) (i : Incoming gauge format) :
    Serves key format
      (Handler.after (Server.handle i.backend w i.circumstances i.packet i.sender s)) where
  sound := (Server.sound_kept i.backend key).handle w _ _ _ serves.sound
  format := (format_kept i.backend format).handle w _ _ _ serves.format

theorem handleAll (serves : Serves key format s) (order : List (Worker × Incoming gauge format)) :
    Serves key format (handleAll s order) := by
  induction order generalizing s with
  | nil => exact serves
  | cons entry rest ih => exact ih (serves.handle entry.1 entry.2)

theorem dispatch (serves : Serves key format s) (i : Incoming gauge format) :
    Serves key format (Handler.after
      (Control.dispatch i.backend i.circumstances.network i.packet i.sender s)) := by
  have opened : Serves key format (s.opened .command i.packet) :=
    ⟨(Server.sound_kept i.backend key).opened .command i.packet serves.sound,
      (format_kept i.backend format).opened .command i.packet serves.format⟩
  refine Control.after_dispatch _ i.circumstances i.packet i.sender s opened ?_ ?_ ?_
  · intro command r carried
    cases r with
    | ok done t =>
      refine ⟨opened.sound.carried carried, ?_⟩
      cases carried <;> exact opened.format
    | error fault t =>
      cases carried with
      | unswitched failed => exact ⟨opened.sound.withDevice _, opened.format⟩
  · exact fun kept => ⟨kept.sound.sealing .command, kept.format⟩
  · exact fun _ kept => ⟨kept.sound.of_same rfl rfl rfl rfl kept.sound.fresh, kept.format⟩

theorem silence (serves : Serves key format s) (backend : Device σ) :
    Serves key format (Control.silence backend s) :=
  ⟨serves.sound.of_map rfl rfl rfl rfl rfl rfl fun _ => rfl, serves.format⟩

end Serves

variable {key : Key} {origin : Server σ} {handshakes commands : List (Incoming gauge format)}

/-- An order of the datagrams so far that leaves, when they are handled whole, the outline of the
server. A stop that is still to come may hide a difference. -/
structure Shadows (key : Key) (origin : Server σ) (handshakes commands : List (Incoming gauge format))
    (order : List (Worker × Incoming gauge format)) (p : Progress gauge format) : Prop where
  handshakes : portion .control order ++ p.handshakes = handshakes
  commands : portion .command order ++ (p.late.toList ++ p.commands) = commands
  serves : Serves key format p.server
  settled : p.late = none → outline gauge p.server = outline gauge (handleAll origin order)
  hidden (i : Incoming gauge format) : p.late = some i → i.loses key.block = true ∧
    (outline gauge p.server).silenced = (outline gauge (handleAll origin order)).silenced

namespace Shadows

variable {order : List (Worker × Incoming gauge format)} {p : Progress gauge format}

theorem outline_snoc_control (serves : Serves key format origin) (i : Incoming gauge format) :
    outline gauge (handleAll origin (order ++ [(.control, i)])) =
      i.handshake key.block (outline gauge (handleAll origin order)) := by
  have serial := serves.handleAll order
  rw [handleAll_append, handleAll, handleAll, Server.after_handle_control,
    i.outline_handshake serial.format, serial.sound.control]

theorem outline_snoc_command (serves : Serves key format origin) (i : Incoming gauge format) :
    outline gauge (handleAll origin (order ++ [(.command, i)])) =
      i.command key.block (outline gauge (handleAll origin order)) := by
  have serial := serves.handleAll order
  rw [handleAll_append, handleAll, handleAll, ← serial.sound.command]
  exact i.outline_command _

theorem control (serves : Serves key format origin)
    (shadows : Shadows key origin handshakes commands order p) :
    ∃ joined, Shadows key origin handshakes commands (order ++ joined) p.stepControl := by
  cases waiting : p.handshakes with
  | nil =>
    refine ⟨[], ?_⟩
    rw [List.append_nil, Progress.stepControl, waiting]
    exact shadows
  | cons i rest =>
    have whole := i.outline_handshake shadows.serves.format
    rw [shadows.serves.sound.control] at whole
    have kept := shadows.serves.handle .control i
    rw [Server.after_handle_control] at kept
    refine ⟨[(.control, i)], ?_⟩
    rw [Progress.stepControl, waiting]
    refine ⟨?_, ?_, kept, ?_, ?_⟩
    · rw [portion_snoc_same, List.append_assoc, ← shadows.handshakes, waiting]
      rfl
    · rw [portion_snoc_other (by decide)]
      exact shadows.commands
    · intro settled
      rw [whole, shadows.settled settled, outline_snoc_control serves]
    · -- What the late stop will undo, the handshake has not seen either.
      intro late pending
      obtain ⟨loses, same⟩ := shadows.hidden late pending
      rw [whole, outline_snoc_control serves]
      exact ⟨loses, i.silenced_handshake key.block same⟩

/-- The second half of a command undoes the first, and what it leaves is what the whole leaves. -/
theorem conclude (serves : Serves key format origin) {i : Incoming gauge format}
    (late : p.late = some i) (shadows : Shadows key origin handshakes commands order p) :
    Shadows key origin handshakes commands (order ++ [(.command, i)]) p.stepCommand := by
  -- While the second half is due, the outline is the one that it will leave undone.
  obtain ⟨loses, same⟩ := shadows.hidden i late
  rw [Progress.stepCommand, late]
  refine ⟨?_, ?_, shadows.serves.silence i.backend, ?_, ?_⟩
  · rw [portion_snoc_other (by decide)]
    exact shadows.handshakes
  · rw [portion_snoc_same, List.append_assoc, ← shadows.commands, late]
    rfl
  · intro _
    rw [i.outline_silence, same, outline_snoc_command serves, Incoming.command, loses, if_pos rfl,
      i.silenced_dispatch]
  · intro _ pending
    cases pending

/-- A command that keeps its acknowledgement joins the order at once, and another one later. -/
theorem dispatch (serves : Serves key format origin) {i : Incoming gauge format}
    {rest : List (Incoming gauge format)} (late : p.late = none) (waiting : p.commands = i :: rest)
    (shadows : Shadows key origin handshakes commands order p) :
    ∃ joined, Shadows key origin handshakes commands (order ++ joined) p.stepCommand := by
  obtain ⟨half, lost⟩ := i.outline_dispatch p.server
  rw [shadows.serves.sound.command, shadows.settled late] at half
  rw [shadows.serves.sound.command] at lost
  have kept := shadows.serves.dispatch i
  have consumed : portion .command order ++ i :: rest = commands := by
    rw [← shadows.commands, late, waiting]
    rfl
  rw [Progress.stepCommand, late, waiting]
  simp only [lost]
  cases loses : i.loses key.block with
  | true =>
    -- The command waits for its second half, and what its first did is hidden until then.
    refine ⟨[], ?_⟩
    rw [List.append_nil]
    refine ⟨shadows.handshakes, consumed, kept, ?_, ?_⟩
    · intro settled
      cases settled
    · intro _ pending
      cases pending
      rw [half, i.silenced_dispatch]
      exact ⟨loses, rfl⟩
  | false =>
    refine ⟨[(.command, i)], ?_, ?_, kept, ?_, ?_⟩
    · rw [portion_snoc_other (by decide)]
      exact shadows.handshakes
    · rw [portion_snoc_same, List.append_assoc]
      exact consumed
    · intro _
      rw [half, outline_snoc_command serves, Incoming.command, loses]
      rfl
    · intro _ pending
      cases pending

theorem command (serves : Serves key format origin)
    (shadows : Shadows key origin handshakes commands order p) :
    ∃ joined, Shadows key origin handshakes commands (order ++ joined) p.stepCommand := by
  cases late : p.late with
  | some i => exact ⟨_, shadows.conclude serves late⟩
  | none =>
    cases waiting : p.commands with
    | nil =>
      refine ⟨[], ?_⟩
      rw [List.append_nil, Progress.stepCommand, late, waiting]
      exact shadows
    | cons i rest => exact shadows.dispatch serves late waiting

theorem step (serves : Serves key format origin) (w : Worker)
    (shadows : Shadows key origin handshakes commands order p) :
    ∃ joined, Shadows key origin handshakes commands (order ++ joined) (p.step w) := by
  cases w with
  | control => exact shadows.control serves
  | command => exact shadows.command serves

theorem run (serves : Serves key format origin) (schedule : List Worker)
    (shadows : Shadows key origin handshakes commands order p) :
    ∃ joined, Shadows key origin handshakes commands (order ++ joined) (p.run schedule) := by
  -- Over the schedule: every step adds to the end of the order, or nothing yet.
  induction schedule generalizing order p with
  | nil =>
    refine ⟨[], ?_⟩
    rw [List.append_nil]
    exact shadows
  | cons w rest ih =>
    obtain ⟨first, shadows⟩ := shadows.step serves w
    obtain ⟨others, shadows⟩ := ih shadows
    rw [List.append_assoc] at shadows
    exact ⟨first ++ others, shadows⟩

end Shadows

/-- However the locked parts of the two workers interleave, there is an order of the datagrams, which
keeps that of each worker, in which handling them whole ends in the same outline. -/
theorem serializable {s : Server σ} (sound : s.Sound key)
    (handshakes commands : List (Incoming gauge s.format)) (schedule : List Worker)
    (finished : (Progress.run ⟨s, handshakes, commands, none⟩ schedule).IsFinished) :
    ∃ order, portion .control order = handshakes ∧ portion .command order = commands ∧
      outline gauge (handleAll s order) =
        outline gauge (Progress.run ⟨s, handshakes, commands, none⟩ schedule).server := by
  have serves : Serves key s.format s := ⟨sound, rfl⟩
  -- The order is built up along the schedule, and nothing is hidden any more at its end.
  have begins : Shadows key s handshakes commands [] ⟨s, handshakes, commands, none⟩ :=
    ⟨rfl, rfl, serves, fun _ => rfl, fun _ pending => by cases pending⟩
  obtain ⟨order, shadows⟩ := begins.run serves schedule
  refine ⟨order, ?_, ?_, (shadows.settled finished.late).symm⟩
  · have all := shadows.handshakes
    rwa [finished.handshakes, List.append_nil] at all
  · have all := shadows.commands
    rw [finished.late, finished.commands, Option.toList_none, List.append_nil, List.append_nil] at all
    exact all

theorem Progress.isFinished_overtaken (s : Server σ) (asking lost : Incoming gauge format)
    (late : Control.isLost (Control.dispatch lost.backend lost.circumstances.network lost.packet
      lost.sender s) = true) :
    (run ⟨s, [asking], [lost], none⟩ [.command, .control, .command]).IsFinished := by
  constructor <;> simp only [run, step, stepCommand, stepControl, late, if_true]

/-- A handshake between the two halves of a command whose acknowledgement is lost. -/
theorem serializable_overtaken_tone :
    let key := Standard.key
    let server := Standard.server Tone.device .standard
    let incoming (c : Circumstances) (plain : List UInt8) : Incoming (gaugeOf Tone.status) .standard :=
      { backend := Tone.device, status := Tone.status, gauged := rfl, outcomes := _,
        follows := follows_tone rfl, circumstances := c, packet := Framer.sealed key.block default plain,
        sender := Standard.client }
    let asking := incoming {} (Settings.request 9000).encode
    let lost := incoming { ack := some ⟨101⟩ } Command.play.encode
    let ended := Progress.run ⟨server, [asking], [lost], none⟩ [.command, .control, .command]
    server.Sound key ∧ ended.IsFinished ∧
      ∃ order, portion .control order = [asking] ∧ portion .command order = [lost] ∧
        outline (gaugeOf Tone.status) (handleAll server order) =
          outline (gaugeOf Tone.status) ended.server := by
  intro key server incoming asking lost ended
  have sound : server.Sound key := .initial ..
  have loses : lost.loses key.block = true :=
    lost.loses_of_asked (Control.commandIn_sealed key.block default .play)
  have finished : ended.IsFinished :=
    Progress.isFinished_overtaken server asking lost ((lost.outline_dispatch server).2.trans loses)
  exact ⟨sound, finished, serializable sound [asking] [lost] _ finished⟩

end PairedAudio.Serial
