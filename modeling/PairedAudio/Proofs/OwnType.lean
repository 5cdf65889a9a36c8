import PairedAudio.Proofs.SameDevice
import PairedAudio.Proofs.Samples.Conversion

/-! Buffers of a stream that has the type of the wire.

Whatever is done with a monitor, the type of its open stream is one that a device has agreed to for the
format of the stream. In a float stream of the float format, samples between -1 and 1 go on as they
are. Samples of sixteen bits become numbers before they are packed, and go on one step nearer to zero.
-/

set_option autoImplicit false

namespace PairedAudio.Capture.Monitor

open Audio
open Wire (bytesOf signedBytes)

section Streams

variable {host : Host} {name : String} {format : Format} {spawn : Option OsError} {m after : Monitor}

theorem stream?_closeStream (m : Monitor) : m.closeStream.stream? = none := by
  unfold closeStream
  split
  · rfl
  · rename_i shut
    unfold stream?
    cases on : m.thread with
    | none => rfl
    | some thread =>
      obtain ⟨stream, crashed⟩ := thread
      cases stream with
      | none => rfl
      | some stream => exact absurd on (shut stream crashed)

theorem stream?_of_quiet (m : Monitor) {use : Use usage}
    (quiet : use.isPreparation = false ∧ use.isStart = false) :
    (usage.step m use).stream? = m.stream? ∨ (usage.step m use).stream? = none := by
  cases use with
  | listen => exact .inl rfl
  | elapse event =>
    cases event with
    | inl recorded =>
      obtain ⟨trace, received⟩ := m.receive_eq recorded
      show (m.receive recorded).stream? = _ ∨ _
      rw [received]
      exact .inl rfl
    | inr text =>
      obtain ⟨trace, reported⟩ := m.reportStreamError_eq text
      show (m.reportStreamError text).stream? = _ ∨ _
      rw [reported]
      exact .inl rfl
  | call surroundings call =>
    cases call with
    | prepare => cases quiet.1
    | start => cases quiet.2
    | stop =>
      obtain ⟨trace, stopped⟩ := m.stop_eq
      show _ ∨ m.stop.stream? = none
      rw [stopped]
      exact .inr rfl
    | requestStop => exact .inr (stream?_closeStream _)
    | setPlaying => exact .inl rfl

theorem stream?_of_openStream (opened : openStream host name format m = .ok () after) :
    after.stream? = some ⟨m.native, format, m.listener⟩ := by
  unfold openStream at opened
  split at opened
  · cases opened
  · rename_i device _
    have on := openedOn device format m
    rw [opened] at on
    cases on with
    | plays => rfl

theorem stream?_of_start (done : start host spawn m = .ok () after) :
    ∃ format, m.format = some format ∧ after.stream? = some ⟨m.native, format, m.listener⟩ := by
  unfold start at done
  split at done
  · rename_i format name ready _
    obtain ⟨trace, joined⟩ := m.join_eq
    rw [joined] at done
    split at done
    · cases done
    dsimp only at done
    split at done
    · cases done
    unfold await at done
    split at done
    · rename_i opened
      cases done
      have on := stream?_of_openStream opened
      exact ⟨format, ready, on⟩
    · cases done
    · cases done
  · cases done

end Streams

theorem stream?_prepare (host : Host) (format : Format) (m : Monitor) :
    (stateAfter (prepare host format m)).stream? = m.stream? := by
  cases valid : format.validate with
  | error error => rw [prepare_invalid host m valid, stateAfter]
  | ok _ =>
    have prepared := prepared host m valid
    generalize Monitor.prepare host format m = result at prepared ⊢
    cases prepared with
    | unchosen => rfl
    | @unsuited choice | @done choice =>
      obtain ⟨trace, logged⟩ := m.forget.logFallback_eq choice
      rw [logged]
      rfl

/-- Among the uses is an initialisation in which the device chosen on the host has agreed to the type;
behind it there are only such as were refused for their format. -/
def Negotiated (uses : List (Use usage)) (type : NativeType) (format : Format) : Prop :=
  ∃ earlier later host spawn choice,
    uses = earlier ++ .call (host, spawn) (.prepare format) :: later ∧
    (∀ surroundings f, Use.call surroundings (.prepare f) ∈ later → f.validate ≠ .ok ()) ∧
    format.validate = .ok () ∧ host.choose = .ok choice ∧
    NativeType.negotiate choice.device choice.name format = .ok type

theorem refused_of_other {use : Use usage} (other : use.isPreparation = false)
    (surroundings : usage.Surroundings) (f : Format) (prepares : use = .call surroundings (.prepare f)) : f.validate ≠ .ok () := by
  subst prepares
  cases other

theorem Negotiated.snoc {uses : List (Use usage)} {type : NativeType} {format : Format}
    (negotiated : Negotiated uses type format) {use : Use usage}
    (other : ∀ surroundings f, use = .call surroundings (.prepare f) → f.validate ≠ .ok ()) :
    Negotiated (uses ++ [use]) type format := by
  obtain ⟨earlier, later, host, spawn, choice, rfl, refused, agreed⟩ := negotiated
  refine ⟨earlier, later ++ [use], host, spawn, choice, by simp, fun surroundings f present => ?_, agreed⟩
  rcases List.mem_append.mp present with before | last
  · exact refused surroundings f before
  · exact other surroundings f (List.mem_singleton.mp last).symm

/-- A start among the uses has opened the stream, with what had been negotiated until then. -/
def OpenedAmong (uses : List (Use usage)) (stream : MonitorStream) : Prop :=
  ∃ before surroundings after, uses = before ++ .call surroundings .start :: after ∧
    (usage.run (usage.new ()) (before ++ [.call surroundings .start])).stream? = some stream ∧
    Negotiated before stream.type stream.format

theorem OpenedAmong.snoc {uses : List (Use usage)} {stream : MonitorStream}
    (opened : OpenedAmong uses stream) (use : Use usage) : OpenedAmong (uses ++ [use]) stream := by
  obtain ⟨before, surroundings, after, rfl, begun⟩ := opened
  exact ⟨before, surroundings, after ++ [use], by simp, begun⟩

structure Settled (uses : List (Use usage)) (m : Monitor) : Prop where
  reached : m = usage.run (usage.new ()) uses
  parameters {format : Format} (ready : m.format = some format) : Negotiated uses m.native format
  stream {stream : MonitorStream} (on : m.stream? = some stream) : OpenedAmong uses stream

namespace Settled

variable {uses : List (Use usage)} {m : Monitor}

theorem new : Settled [] {} := ⟨rfl, nofun, nofun⟩

theorem reached_snoc (settled : Settled uses m) (use : Use usage) :
    usage.step m use = usage.run (usage.new ()) (uses ++ [use]) := by
  rw [Usage.run, List.foldl_append, settled.reached]
  rfl

theorem of_same (settled : Settled uses m) {use : Use usage}
    (other : ∀ surroundings f, use = .call surroundings (.prepare f) → f.validate ≠ .ok ())
    (format : (usage.step m use).format = m.format) (native : (usage.step m use).native = m.native)
    (stream : (usage.step m use).stream? = m.stream? ∨ (usage.step m use).stream? = none) :
    Settled (uses ++ [use]) (usage.step m use) where
  reached := settled.reached_snoc use
  parameters ready := by
    rw [native]
    exact (settled.parameters (format.symm.trans ready)).snoc other
  stream on := by
    rcases stream with same | shut
    · exact (settled.stream (same.symm.trans on)).snoc use
    · cases shut.symm.trans on

theorem prepare (settled : Settled uses m) (host : Host) (spawn : Option OsError) (format : Format) :
    Settled (uses ++ [.call (host, spawn) (.prepare format)])
      (usage.step m (.call (host, spawn) (.prepare format))) := by
  have left : usage.step m (.call (host, spawn) (.prepare format)) =
      stateAfter (Monitor.prepare host format m) := stateAfter_refusable ..
  have still := (congrArg stream? left).trans (stream?_prepare host format m)
  cases valid : format.validate with
  | error error =>
    rw [prepare_invalid host m valid] at left
    refine settled.of_same ?_ (congrArg Monitor.format left) (congrArg Monitor.native left) (.inl still)
    rintro _ _ ⟨rfl, rfl⟩ valid'
    cases valid.symm.trans valid'
  | ok _ =>
    refine ⟨settled.reached_snoc _, fun ready => ?_,
      fun on => (settled.stream (still.symm.trans on)).snoc _⟩
    have prepared := prepared host m valid
    rw [left] at ready ⊢
    generalize Monitor.prepare host format m = result at prepared ready ⊢
    cases prepared with
    | unchosen => cases ready
    | @unsuited choice =>
      obtain ⟨trace, logged⟩ := m.forget.logFallback_eq choice
      rw [logged] at ready
      cases ready
    | @done choice native chosen suits =>
      cases ready
      exact ⟨uses, [], host, spawn, choice, rfl,
        fun _ _ present => absurd present List.not_mem_nil, valid, chosen, suits⟩

theorem start (settled : Settled uses m) (host : Host) (spawn : Option OsError) :
    Settled (uses ++ [.call (host, spawn) .start]) (usage.step m (.call (host, spawn) .start)) := by
  have left : usage.step m (.call (host, spawn) .start) = stateAfter (Monitor.start host spawn m) :=
    stateAfter_refusable ..
  have started := started host spawn m
  cases ended : Monitor.start host spawn m with
  | error e after =>
    rw [ended] at started left
    have stopped : after.format = m.format ∧ after.native = m.native ∧
        (after.stream? = m.stream? ∨ after.stream? = none) := by
      cases started with
      | unready | doubled => exact ⟨rfl, rfl, .inl rfl⟩
      | unspawned | failed => exact ⟨rfl, rfl, .inr rfl⟩
    obtain ⟨format, native, stream⟩ := stopped
    refine settled.of_same (refused_of_other rfl) ?_ ?_ ?_
    all_goals rw [left, stateAfter]
    exacts [format, native, stream]
  | ok _ after =>
    rw [ended] at started left
    obtain ⟨format, ready, opened⟩ := stream?_of_start ended
    have kept : after.format = m.format ∧ after.native = m.native := by
      cases started with
      | begun => exact ⟨rfl, rfl⟩
    have reached := settled.reached_snoc (.call (host, spawn) .start)
    refine ⟨reached, fun ready => ?_, fun on => ?_⟩
    · rw [left, stateAfter] at ready ⊢
      rw [kept.2]
      exact (settled.parameters (kept.1.symm.trans ready)).snoc (refused_of_other rfl)
    · refine ⟨uses, _, [], rfl, reached ▸ on, ?_⟩
      rw [left, stateAfter] at on
      cases opened.symm.trans on
      exact settled.parameters ready

theorem step (settled : Settled uses m) (use : Use usage) :
    Settled (uses ++ [use]) (usage.step m use) := by
  rcases use.sort with ⟨⟨host, spawn⟩, format, rfl⟩ | ⟨⟨host, spawn⟩, rfl⟩ | quiet
  · exact settled.prepare host spawn format
  · exact settled.start host spawn
  · have kept := Kept.use m quiet
    exact settled.of_same (refused_of_other quiet.1) kept.format kept.native (stream?_of_quiet m quiet)

theorem run (settled : Settled uses m) (more : List (Use usage)) :
    Settled (uses ++ more) (usage.run m more) := by
  -- Over the uses to come, which are put behind those that were.
  induction more generalizing uses m with
  | nil => rwa [List.append_nil]
  | cons use more ih =>
    rw [List.append_cons]
    exact ih (settled.step use)

end Settled

/-- The buffer goes on to the listener, as this chunk. -/
def PassesOn (m : Monitor) (recorded : Recorded) (listener : Listener) (chunk : List UInt8) : Prop :=
  (m.receive recorded).trace.delivered = m.trace.delivered ++ [⟨listener, chunk⟩]

theorem passesOn_packed {m : Monitor} {stream : MonitorStream} {listener : Listener}
    (recorded : Recorded) (on : m.stream? = some stream) (listens : stream.listener = some listener)
    (calm : listener.crashes = false) (playing : m.playing = true)
    (some : recorded.samples stream.type ≠ []) :
    m.PassesOn recorded listener
      (packSamples stream.format (recorded.samples stream.type)) := by
  have full : (recorded.samples stream.type).isEmpty = false := List.isEmpty_eq_false_iff.mpr some
  simp only [PassesOn, receive, on, listens, full, playing, calm, Bool.not_true, Bool.or_false,
    Bool.false_eq_true, if_false]
  rfl

/-- After any uses of a monitor, what its stream is given while it plays goes on to the listener of the
stream. The type of the stream is the one negotiated for its format with the device that was chosen by
the initialisation in force when it was started. If both are of 32-bit floats, the
chunk is exactly the bits of the samples that lie between -1 and 1. If both are of 16-bit integers,
each sample but zero is one step nearer to zero in the chunk. -/
theorem passes_own_type_on (uses : List (Use usage)) (recorded : Recorded) {stream : MonitorStream}
    {listener : Listener} (on : (usage.run (usage.new ()) uses).stream? = some stream)
    (listens : stream.listener = some listener) (calm : listener.crashes = false)
    (playing : (usage.run (usage.new ()) uses).playing = true) :
    let m := usage.run (usage.new ()) uses
    OpenedAmong uses stream ∧
    (stream.type = .f32 → stream.format.encoding = .float → recorded.f32 ≠ [] →
      (∀ x ∈ recorded.f32, x.isNaN = false ∧ ((-1 : ℚ) : WithBotTop ℚ) ≤ x.extended ∧
        x.extended ≤ ((1 : ℚ) : WithBotTop ℚ)) →
      m.PassesOn recorded listener (recorded.f32.flatMap fun x => bytesOf 4 x.bits.toNat)) ∧
    (stream.type = .i16 → stream.format.encoding = .pcm → stream.format.bits = 16 →
      ∀ samples : List Int16, samples ≠ [] →
        m.PassesOn { recorded with i16 := samples.map Int16.toInt } listener
          (samples.flatMap fun v => signedBytes 2 (v.toInt - v.toInt.sign))) := by
  intro m
  refine ⟨(Settled.new.run uses).stream on, fun type float some inside => ?_,
    fun type pcm bits samples some => ?_⟩
  · have given : recorded.samples stream.type = recorded.f32 := by rw [type, Recorded.samples]
    have passes := passesOn_packed recorded on listens calm playing (by rwa [given])
    rwa [given, packSamples_float float inside] at passes
  · have given : Recorded.samples { recorded with i16 := samples.map Int16.toInt } stream.type =
        (samples.map Int16.toInt).map fun v => .ofRatio v 32768 := by rw [type, Recorded.samples]
    have passes := passesOn_packed { recorded with i16 := samples.map Int16.toInt } on listens calm
      playing (by simpa [given] using some)
    rwa [given, packSamples_ofRatio pcm bits] at passes

def openedIn (format : Format) (listener : Listener) : List (Use usage) :=
  let device : InputDevice := { InputDevice.standard "pulse" with
    ranges := .ok [⟨2, some .i16, 1, 768000⟩, ⟨2, some .f32, 1, 768000⟩] }
  let host : Host := { devices := .ok [device] }
  [.listen (host, none) listener, .call (host, none) (.prepare format), .call (host, none) .start]

/-- The ends of sixteen bits, and a half. -/
theorem passes_own_type_on_to_listener :
    let listener : Listener := { name := "A" }
    let integers := usage.run (usage.new ()) (openedIn .standard listener)
    let floats := usage.run (usage.new ()) (openedIn ⟨.float, 32, 48000⟩ listener)
    integers.PassesOn { i16 := [32767, 0, -32768] } listener [0xfe, 0x7f, 0, 0, 0x01, 0x80] ∧
      floats.PassesOn { f32 := [⟨0x3f000000⟩] } listener [0, 0, 0, 0x3f] := by
  intro listener integers floats
  obtain ⟨-, -, ofIntegers⟩ := passes_own_type_on (openedIn .standard listener) {} rfl rfl rfl rfl
  obtain ⟨-, ofFloats, -⟩ := passes_own_type_on (openedIn ⟨.float, 32, 48000⟩ listener)
    { f32 := [⟨0x3f000000⟩] } rfl rfl rfl rfl
  have inside : ∀ x ∈ [(⟨0x3f000000⟩ : Binary32)], x.isNaN = false ∧
      ((-1 : ℚ) : WithBotTop ℚ) ≤ x.extended ∧ x.extended ≤ ((1 : ℚ) : WithBotTop ℚ) := by
    intro x among
    obtain rfl := List.mem_singleton.mp among
    exact ⟨rfl, (Binary32.unit_le_iff rfl true).mpr (by decide),
      (Binary32.le_unit_iff rfl false).mpr (by decide)⟩
  exact ⟨ofIntegers rfl rfl rfl [32767, 0, -32768] (by decide), ofFloats rfl rfl (by decide) inside⟩

/-- The least sample above zero is lost. -/
theorem least_sample_lost :
    let listener : Listener := { name := "A" }
    let m := usage.run (usage.new ()) (openedIn .standard listener)
    m.stream?.map MonitorStream.type = some .i16 ∧ m.PassesOn { i16 := [1] } listener [0, 0] ∧
      ¬ m.PassesOn { i16 := [1] } listener ([1].flatMap (signedBytes 2)) := by
  unfold PassesOn
  decide +kernel

end PairedAudio.Capture.Monitor
