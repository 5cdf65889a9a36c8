import PairedAudio.Proofs.Loopback.Polling
import PairedAudio.Proofs.Unbroken
import PairedAudio.Proofs.Usage

/-! What each operation of a capture can do.

A start of a capture that has not been initialised, or that runs, leaves it as it is; any other start
has joined the thread of an earlier run before it can fail. Initialising and starting keep to their own
parts of the capture, and so does what happens between the calls.
-/

set_option autoImplicit false

namespace PairedAudio.Capture

open Audio (Format)

namespace Tone

theorem next_eq (tone : Tone) : ∃ run, tone.next.2 = { tone with run } := by
  rcases tone.next_cases with same | ⟨run, _, crashed | ⟨listener, _, delivered⟩⟩
  · exact ⟨tone.run, by rw [same]⟩
  · exact ⟨_, by rw [crashed]⟩
  · exact ⟨_, by rw [delivered]⟩

/-- What an initialisation sets is as it was. -/
structure Same (tone after : Tone) : Prop where
  format : after.format = tone.format
  period : after.period = tone.period

/-- What an initialisation sets is as it was, and the capture has not been put in use. -/
structure Kept (tone after : Tone) : Prop extends Same tone after where
  idle (idle : tone.running = false) : after.running = false

theorem Kept.use (tone : Tone) {use : Use usage}
    (quiet : use.isPreparation = false ∧ use.isStart = false) : Kept tone (usage.step tone use) := by
  cases use with
  | listen => exact ⟨⟨rfl, rfl⟩, id⟩
  | elapse =>
    obtain ⟨run, next⟩ := tone.next_eq
    show Kept tone tone.next.2
    rw [next]
    exact ⟨⟨rfl, rfl⟩, id⟩
  | call surroundings call =>
    cases call with
    | prepare => cases quiet.1
    | start => cases quiet.2
    | stop | requestStop => exact ⟨⟨rfl, rfl⟩, fun _ => rfl⟩
    | setPlaying => exact ⟨⟨rfl, rfl⟩, id⟩

theorem prepare_invalid {format : Format} {error : Audio.FormatError} (tone : Tone)
    (invalid : format.validate = .error error) :
    prepare format tone = .error error.asCapture tone := by
  simp only [prepare, invalid]

theorem prepare_valid {format : Format} (tone : Tone) (valid : format.validate = .ok ()) :
    prepare format tone = .ok () { tone with
      format := some format, period := Audio.framesPerPeriod format.rate periodLength } := by
  simp only [prepare, valid]

inductive Started (spawn : Option OsError) (tone : Tone) :
    EStateM.Result CaptureError Tone Unit → Prop
  | unready (unready : tone.format = none) : Started spawn tone (.error notInitialised tone)
  | doubled (runs : tone.running = true) :
      Started spawn tone (.error usage.alreadyRunning tone)
  | unspawned {e : OsError} (refused : spawn = some e) :
      Started spawn tone
        (.error (spawnRefused e) { tone with running := true, playing := true, run := none })
  | begun (run : ToneRun) (ready : tone.format.isSome = true) :
      Started spawn tone (.ok () { tone with running := true, playing := true, run := some run })

theorem started (spawn : Option OsError) (tone : Tone) : Started spawn tone (start spawn tone) := by
  unfold start
  split
  · exact .unready ‹_›
  rename_i ready
  split
  · exact .doubled ‹_›
  split
  · exact .unspawned rfl
  · exact .begun _ (Option.isSome_of_mem ready)

end Tone

section Named

variable {host : Host} (wanted : String)

theorem Host.named_listed {devices : List InputDevice} (listed : host.devices = .ok devices) :
    host.named wanted = match devices.find? fun device => nameOf device == wanted with
      | some device => .ok device
      | none => .error .deviceNotAvailable := by
  unfold named listing
  rw [listed]
  rfl

theorem Host.named_unlisted {text : String} (unlisted : host.devices = .error text) :
    host.named wanted =
      .error (.configurationFailed s!"cannot list input devices: {text}") := by
  unfold named listing
  rw [unlisted]
  rfl

end Named

namespace Monitor

theorem closeStream_eq (m : Monitor) :
    ∃ thread trace, m.closeStream = { m with thread, trace } := by
  unfold closeStream
  split
  · exact ⟨_, _, rfl⟩
  · exact ⟨_, _, rfl⟩

theorem receive_eq (recorded : Recorded) (m : Monitor) :
    ∃ trace, m.receive recorded = { m with trace } := by
  unfold receive
  split
  · exact ⟨_, rfl⟩
  split
  · exact ⟨_, rfl⟩
  dsimp only
  split
  · exact ⟨_, rfl⟩
  · exact ⟨_, rfl⟩

theorem reportStreamError_eq (text : String) (m : Monitor) :
    ∃ trace, m.reportStreamError text = { m with trace } := by
  unfold reportStreamError
  split
  · exact ⟨_, rfl⟩
  · exact ⟨_, rfl⟩

theorem logFallback_eq (choice : Host.Choice) (m : Monitor) :
    ∃ trace, m.logFallback choice = { m with trace } := by
  unfold logFallback
  split
  · exact ⟨_, rfl⟩
  · exact ⟨_, rfl⟩

theorem prepare_invalid {format : Format} {error : Audio.FormatError} (host : Host) (m : Monitor)
    (invalid : format.validate = .error error) :
    prepare host format m = .error error.asCapture m := by
  simp only [prepare, invalid]

inductive Prepared (host : Host) (format : Format) (m : Monitor) :
    EStateM.Result CaptureError Monitor Unit → Prop
  | unchosen {e : CaptureError} (missing : host.choose = .error e) :
      Prepared host format m (.error e m.forget)
  | unsuited {choice : Host.Choice} {e : CaptureError} (chosen : host.choose = .ok choice)
      (none : NativeType.negotiate choice.device choice.name format = .error e) :
      Prepared host format m (.error e (m.forget.logFallback choice))
  | done {choice : Host.Choice} {native : NativeType} (chosen : host.choose = .ok choice)
      (suits : NativeType.negotiate choice.device choice.name format = .ok native) :
      Prepared host format m (.ok () { m.forget.logFallback choice with
        native
        deviceName := some choice.name
        period := Audio.framesPerPeriod format.rate periodLength
        format := some format })

theorem prepared {format : Format} (host : Host) (m : Monitor) (valid : format.validate = .ok ()) :
    Prepared host format m (prepare host format m) := by
  simp only [prepare, valid]
  cases chosen : host.choose with
  | error e => exact .unchosen chosen
  | ok choice =>
    dsimp only
    cases suits : NativeType.negotiate choice.device choice.name format with
    | error e => exact .unsuited chosen suits
    | ok native => exact .done chosen suits

theorem prepare_eq (host : Host) (format : Format) (m : Monitor) :
    ∃ native deviceName period format' trace, stateAfter (prepare host format m) =
      { m with native, deviceName, period, format := format', trace } := by
  cases valid : format.validate with
  | error error =>
    rw [prepare_invalid host m valid]
    exact ⟨_, _, _, _, _, rfl⟩
  | ok _ =>
    have prepared := prepared host m valid
    generalize prepare host format m = result at prepared ⊢
    cases prepared with
    | unchosen => exact ⟨_, _, _, _, _, rfl⟩
    | @unsuited choice | @done choice =>
      obtain ⟨trace, logged⟩ := m.forget.logFallback_eq choice
      rw [logged]
      exact ⟨_, _, _, _, _, rfl⟩

theorem join_eq (m : Monitor) : ∃ trace, m.join = { m with thread := none, trace } := by
  cases on : m.thread with
  | none =>
    have same : m.join = m := by simp only [join, closeStream, on]
    exact ⟨m.trace, by rw [same, ← on]⟩
  | some thread =>
    obtain ⟨trace, thread', closed⟩ : ∃ trace thread',
        m.closeStream = { m with thread := some thread', trace } := by
      unfold closeStream
      split
      · exact ⟨_, _, rfl⟩
      · exact ⟨m.trace, thread, by rw [← on]⟩
    unfold join
    rw [closed]
    dsimp only
    split
    · exact ⟨_, rfl⟩
    · exact ⟨_, rfl⟩

theorem stop_eq (m : Monitor) : ∃ trace, m.stop = { m with running := false, thread := none, trace } :=
  join_eq { m with running := false }

structure Same (m after : Monitor) : Prop where
  format : after.format = m.format
  deviceName : after.deviceName = m.deviceName
  native : after.native = m.native
  period : after.period = m.period

structure Kept (m after : Monitor) : Prop extends Same m after where
  idle (idle : m.running = false) : after.running = false

theorem Kept.elapse (m : Monitor) (event : Recorded ⊕ String) : Kept m (usage.elapse event m) := by
  cases event with
  | inl recorded =>
    obtain ⟨trace, received⟩ := m.receive_eq recorded
    show Kept m (m.receive recorded)
    rw [received]
    exact ⟨⟨rfl, rfl, rfl, rfl⟩, id⟩
  | inr text =>
    obtain ⟨trace, reported⟩ := m.reportStreamError_eq text
    show Kept m (m.reportStreamError text)
    rw [reported]
    exact ⟨⟨rfl, rfl, rfl, rfl⟩, id⟩

theorem Kept.use (m : Monitor) {use : Use usage}
    (quiet : use.isPreparation = false ∧ use.isStart = false) : Kept m (usage.step m use) := by
  cases use with
  | listen => exact ⟨⟨rfl, rfl, rfl, rfl⟩, id⟩
  | elapse event => exact .elapse m event
  | call surroundings call =>
    cases call with
    | prepare => cases quiet.1
    | start => cases quiet.2
    | stop =>
      obtain ⟨trace, stopped⟩ := m.stop_eq
      show Kept m m.stop
      rw [stopped]
      exact ⟨⟨rfl, rfl, rfl, rfl⟩, fun _ => rfl⟩
    | requestStop =>
      obtain ⟨thread, trace, closed⟩ := closeStream_eq { m with running := false }
      show Kept m m.requestStop
      rw [requestStop, closed]
      exact ⟨⟨rfl, rfl, rfl, rfl⟩, fun _ => rfl⟩
    | setPlaying => exact ⟨⟨rfl, rfl, rfl, rfl⟩, id⟩

/-- A message that begins with another letter is not that of a capture that runs. -/
theorem ne_alreadyRunning {front : String} {c : Char} (begins : front.toList.head? = some c)
    (other : c ≠ 'm') (text : String) :
    CaptureError.configurationFailed (front ++ text) ≠ usage.alreadyRunning := by
  intro same
  have texts : front ++ text = "monitor capture already running" := by injection same
  have letters := congrArg (fun s => s.toList.head?) texts
  simp [begins, other] at letters

theorem named_ne_alreadyRunning {host : Host} {name : String} {e : CaptureError}
    (missing : host.named name = .error e) : e ≠ usage.alreadyRunning := by
  cases listed : host.devices with
  | error text =>
    rw [Host.named_unlisted name listed] at missing
    cases missing
    exact ne_alreadyRunning rfl (by decide) text
  | ok devices =>
    rw [Host.named_listed name listed] at missing
    split at missing
    · cases missing
    · cases missing
      nofun

inductive Opened (m : Monitor) : EStateM.Result OpenFailure Monitor Unit → Prop
  | crashed : Opened m (.error .crashed m)
  | refused {e : CaptureError} (trace : Trace HostCall) (other : e ≠ usage.alreadyRunning) :
      Opened m (.error (.refused e) { m with trace })
  | plays (thread : MonitorThread) (trace : Trace HostCall) :
      Opened m (.ok () { m with thread := some thread, trace })

theorem opened (host : Host) (name : String) (format : Format) (m : Monitor) :
    Opened m (openStream host name format m) := by
  unfold openStream
  split
  · exact .refused _ (named_ne_alreadyRunning ‹_›)
  unfold openOn
  split
  · exact .crashed
  dsimp only
  split
  · exact .refused _ (ne_alreadyRunning rfl (by decide) _)
  split
  · exact .refused _ nofun
  · exact .plays _ _

inductive Started (spawn : Option OsError) (m : Monitor) :
    EStateM.Result CaptureError Monitor Unit → Prop
  | unready (unready : m.format = none ∨ m.deviceName = none) :
      Started spawn m (.error notInitialised m)
  | doubled (runs : m.running = true) :
      Started spawn m (.error usage.alreadyRunning m)
  | unspawned {e : OsError} (trace : Trace HostCall) (refused : spawn = some e) :
      Started spawn m (.error (spawnRefused e)
        { m with running := true, playing := true, thread := none, trace })
  | failed {e : CaptureError} (trace : Trace HostCall) (other : e ≠ usage.alreadyRunning) :
      Started spawn m (.error e { m with running := false, playing := true, thread := none, trace })
  | begun (thread : MonitorThread) (trace : Trace HostCall) (ready : m.format.isSome = true) :
      Started spawn m
        (.ok () { m with running := true, playing := true, thread := some thread, trace })

theorem started (host : Host) (spawn : Option OsError) (m : Monitor) :
    Started spawn m (start host spawn m) := by
  unfold start
  split
  · rename_i format name ready _
    split
    · exact .doubled ‹_›
    obtain ⟨before, joined⟩ := m.join_eq
    rw [joined]
    dsimp only
    split
    · exact .unspawned _ rfl
    -- Whatever becomes of the stream, a start that fails stops the capture again.
    unfold await
    have stream := opened host name format
      { m with running := true, playing := true, thread := none, trace := before }
    generalize openStream host name format _ = result at stream
    cases stream with
    | crashed =>
      dsimp only
      obtain ⟨after, stopped⟩ := stop_eq { m with
        running := true, playing := true, thread := some { crashed := true }, trace := before }
      rw [stopped]
      exact .failed _ nofun
    | @refused e trace other =>
      dsimp only
      obtain ⟨after, stopped⟩ := stop_eq (log (.error s!"monitor capture error: {e.message}")
        { m with running := true, playing := true, thread := none, trace })
      rw [stopped]
      exact .failed _ other
    | plays thread trace => exact .begun _ _ (Option.isSome_of_mem ready)
  · rename_i unready
    refine .unready ?_
    cases format : m.format with
    | none => exact .inl rfl
    | some format' =>
      cases name : m.deviceName with
      | none => exact .inr rfl
      | some name' => exact absurd name (unready _ _ format)

theorem start_ready {format : Format} {name : String} {m : Monitor} (host : Host)
    (ready : m.format = some format) (known : m.deviceName = some name) (idle : m.running = false) :
    start host none m =
      await (openStream host name format) { m.join with running := true, playing := true } := by
  simp only [start, ready, known, idle, Bool.false_eq_true, if_false]

end Monitor

namespace Loopback

structure Same (l after : Loopback) : Prop where
  format : after.format = l.format
  channels : after.channels = l.channels
  period : after.period = l.period

theorem Same.trans {l l' l'' : Loopback} (first : Same l l') (second : Same l' l'') : Same l l'' :=
  ⟨second.format.trans first.format, second.channels.trans first.channels,
    second.period.trans first.period⟩

structure Kept (l after : Loopback) : Prop extends Same l after where
  idle (idle : l.running = false) : after.running = false

namespace Kept

theorem refl (l : Loopback) : Kept l l := ⟨⟨rfl, rfl, rfl⟩, id⟩

theorem trans {l l' l'' : Loopback} (first : Kept l l') (second : Kept l' l'') : Kept l l'' :=
  ⟨first.toSame.trans second.toSame, second.idle ∘ first.idle⟩

theorem abort (e : CaptureError) (l : Loopback) : Kept l (l.abort e) := ⟨⟨rfl, rfl, rfl⟩, fun _ => rfl⟩

theorem crash (l : Loopback) : Kept l l.crash := ⟨⟨rfl, rfl, rfl⟩, id⟩

theorem making (calls : List SystemCall) (l : Loopback) : Kept l (l.making calls) :=
  ⟨⟨rfl, rfl, rfl⟩, id⟩

theorem look {l l' : Loopback} (look : Look l l') : Kept l l' := by
  cases look with
  | found | idle => exact ⟨⟨rfl, rfl, rfl⟩, id⟩
  | lost => exact (making _ l).trans (abort _ _)

theorem handed (thread : LoopbackThread) (packet : RenderPacket) (l : Loopback) :
    Kept l (l.handed thread packet) := by
  unfold Loopback.handed
  split
  · exact refl l
  · exact ⟨⟨rfl, rfl, rfl⟩, id⟩

theorem release {packet : RenderPacket} {l l' : Loopback} (release : Release packet l l') :
    Kept l l' := by
  cases release with
  | looks given look => exact (making _ l).trans (.look look)
  | lost => exact (making _ l).trans (abort _ _)

theorem step (l : Loopback) : Kept l l.step := by
  have turned := turn l
  generalize l.step = l' at turned
  cases turned with
  | rests => exact refl l
  | told => exact ⟨⟨rfl, rfl, rfl⟩, fun _ => rfl⟩
  | strays | crashes => exact ⟨⟨rfl, rfl, rfl⟩, id⟩
  | unfetched => exact (making _ l).trans (abort _ _)
  | looks on polls runs look => exact .look look
  | @fetched thread packet _ _ on fetches queue got calm release =>
    have dequeued : Kept ((l.making [.getBuffer]).handed thread packet)
      ((l.making [.getBuffer]).handed thread packet).dequeued := ⟨⟨rfl, rfl, rfl⟩, id⟩
    exact (((making _ l).trans (handed thread packet _)).trans dequeued).trans (.release release)

theorem steps (n : Nat) (l : Loopback) : Kept l (l.steps n) := by
  induction n generalizing l with
  | zero => exact refl l
  | succ n ih => exact (step l).trans (ih l.step)

theorem join (l : Loopback) : Kept l l.join := by
  unfold Loopback.join
  split
  · dsimp only
    split
    · exact ⟨⟨rfl, rfl, rfl⟩, id⟩
    · exact ⟨⟨rfl, rfl, rfl⟩, id⟩
  · exact refl l

theorem joined (l : Loopback) : Kept l l.settle.join := (steps _ l).trans (.join _)

theorem requestStop (l : Loopback) : Kept l l.requestStop := ⟨⟨rfl, rfl, rfl⟩, fun _ => rfl⟩

theorem arrive (packets : List RenderPacket) (l : Loopback) : Kept l (l.arrive packets) := by
  rw [arrive_eq]
  split
  · exact ⟨⟨rfl, rfl, rfl⟩, id⟩
  · exact refl l

theorem launch (shape : StreamShape) (l : Loopback) : Kept l (l.launch shape) := by
  have launched := launched shape l
  generalize l.launch shape = l' at launched
  cases launched with
  | unentered => exact ⟨⟨rfl, rfl, rfl⟩, fun _ => rfl⟩
  | lost => exact ((making _ l).trans (making _ _)).trans (abort _ _)
  | crashed => exact ((making _ l).trans (making _ _)).trans (crash _)
  | opened => exact (making _ l).trans (making _ _)

theorem use (l : Loopback) {use : Use usage}
    (quiet : use.isPreparation = false ∧ use.isStart = false) : Kept l (usage.step l use) := by
  cases use with
  | listen => exact ⟨⟨rfl, rfl, rfl⟩, id⟩
  | elapse event =>
    cases event with
    | step => exact step l
    | arrive packets => exact arrive packets l
    | change => exact ⟨⟨rfl, rfl, rfl⟩, id⟩
  | call surroundings call =>
    cases call with
    | prepare => cases quiet.1
    | start => cases quiet.2
    | stop => exact (requestStop l).trans (joined l.requestStop)
    | requestStop => exact requestStop l
    | setPlaying => exact ⟨⟨rfl, rfl, rfl⟩, id⟩

end Kept

theorem prepare_invalid {format : Format} {error : Audio.FormatError} (l : Loopback)
    (invalid : format.validate = .error error) :
    prepare format l = .error (.refused error.asCapture) l := by
  simp only [prepare, invalid]

/-- How the initialisation of a loopback capture in a valid format can end: it has made calls, and
given back whatever it has taken. -/
inductive Prepared (format : Format) (l : Loopback) : EStateM.Result Fault Loopback Unit → Prop
  | failed {fault : Fault} {calls : List SystemCall} (settled : Settled (l.answers calls))
      (cut : Cut ⟨format, l.endpoint.channels⟩ (l.answers calls) fault) :
      Prepared format l (.error fault (l.forget.making calls))
  | overlong {calls : List SystemCall} (settled : Settled (l.answers calls))
      (long : periodFrames? l.endpoint.period format.rate = none) :
      Prepared format l
        (.error .crashed { l.forget.making calls with channels := l.endpoint.channels })
  | done {calls : List SystemCall} {period : UInt32} (settled : Settled (l.answers calls))
      (sized : (StreamShape.waveFormat? ⟨format, l.endpoint.channels⟩).isSome)
      (frames : periodFrames? l.endpoint.period format.rate = some period) :
      Prepared format l (.ok () { l.forget.making calls with
        channels := l.endpoint.channels
        period
        format := some format })

theorem prepared {format : Format} (l : Loopback) (valid : format.validate = .ok ()) :
    Prepared format l (prepare format l) := by
  simp only [prepare, valid]
  cases trial_performs format l.forget with
  | error ended described =>
    rw [ended]
    exact .failed described.1 described.2
  | ok ended described =>
    obtain ⟨⟨rfl, sized⟩, settled⟩ := described
    rw [ended]
    dsimp only
    cases frames : periodFrames? l.endpoint.period format.rate with
    | none =>
      rw [show periodFrames? l.forget.endpoint.period format.rate = none from frames]
      exact .overlong settled frames
    | some period =>
      rw [show periodFrames? l.forget.endpoint.period format.rate = some period from frames]
      exact .done settled sized frames

theorem prepare_eq (format : Format) (l : Loopback) :
    ∃ endpoint channels period format' trace, stateAfter (prepare format l) =
      { l with endpoint, channels, period, format := format', trace } := by
  cases valid : format.validate with
  | error error =>
    rw [prepare_invalid l valid]
    exact ⟨_, _, _, _, _, rfl⟩
  | ok _ =>
    have prepared := prepared l valid
    generalize prepare format l = result at prepared ⊢
    cases prepared with
    | failed | overlong | done => exact ⟨_, _, _, _, _, rfl⟩

def spawned (format : Format) (l : Loopback) : Loopback :=
  { l with
    running := true
    playing := true
    thread := some { shape := ⟨format, l.channels⟩, listener := l.listener } }

def begun (format : Format) (l : Loopback) : Loopback :=
  (l.spawned format).launch ⟨format, l.channels⟩

inductive Started (spawn : Option OsError) (l : Loopback) :
    EStateM.Result CaptureError Loopback Unit → Prop
  | unready (unready : l.format = none) : Started spawn l (.error notInitialised l)
  | doubled (runs : l.running = true) :
      Started spawn l (.error usage.alreadyRunning l)
  | unspawned {e : OsError} (refused : spawn = some e) (idle : l.running = false) :
      Started spawn l
        (.error (spawnRefused e) { l.settle.join with running := true, playing := true })
  | begun {format : Format} (free : spawn = none) (ready : l.format = some format)
      (idle : l.running = false) : Started spawn l (.ok () (l.settle.join.begun format))

theorem started (spawn : Option OsError) (l : Loopback) : Started spawn l (start spawn l) := by
  unfold start
  split
  · exact .unready ‹_›
  rename_i format ready
  split
  · exact .doubled ‹_›
  rename_i runs
  have idle : l.running = false := Bool.eq_false_iff.mpr runs
  split
  · exact .unspawned rfl idle
  · exact .begun rfl ready idle

end Loopback

end PairedAudio.Capture
