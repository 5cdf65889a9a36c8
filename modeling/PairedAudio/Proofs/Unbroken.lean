import PairedAudio.Proofs.Period

/-! The runs of a tone and what each of them delivers.

A run takes format, period and listener with it when it starts, and its oscillator goes on from one
chunk to the next. So all chunks of a run together are one tone from phase zero, whatever is done
to the capture in the meantime.
-/

set_option autoImplicit false

namespace PairedAudio

open Audio

theorem Audio.Oscillator.stereo_add (a b : Nat) (o : Oscillator) :
    o.stereo (a + b) =
      ((o.stereo a).1 ++ ((o.stereo a).2.stereo b).1, ((o.stereo a).2.stereo b).2) := by
  -- Over the frames of the first part, from any phase.
  induction a generalizing o with
  | zero => simp [Oscillator.stereo]
  | succ a ih => simp [Nat.succ_add, Oscillator.stereo, ih]

theorem Audio.packSamples_append (format : Format) (front back : List Binary32) :
    packSamples format (front ++ back) = packSamples format front ++ packSamples format back :=
  List.flatMap_append

namespace Capture

structure Played where
  format : Format
  period : UInt32
  listener : Option Listener
  delivered : List Delivery := []

namespace Played

def hear (deliveries : List Delivery) (r : Played) : Played :=
  { r with delivered := r.delivered ++ deliveries }

/-- As many frames of a tone from phase zero as there are in the chunks so far, and the oscillator
behind them. -/
def signal (frequency amplitude : Binary32) (r : Played) : List Binary32 × Oscillator :=
  (Oscillator.start frequency amplitude r.format.rate).stereo (r.delivered.length * r.period.toNat)

theorem signal_hear (frequency amplitude : Binary32) (r : Played) (delivery : Delivery) :
    let before := r.signal frequency amplitude
    let more := before.2.stereo r.period.toNat
    (r.hear [delivery]).signal frequency amplitude = (before.1 ++ more.1, more.2) := by
  simp only [signal, hear, List.length_append, List.length_singleton, Nat.add_one_mul,
    Oscillator.stereo_add]

/-- The chunks are that tone, each of them a period of it, and all of them went to the listener of the
start. -/
structure Unbroken (frequency amplitude : Binary32) (r : Played) : Prop where
  sound : (r.delivered.map Delivery.chunk).flatten =
    packSamples r.format (r.signal frequency amplitude).1
  heard (delivery : Delivery) (delivered : delivery ∈ r.delivered) :
    r.listener = some delivery.listener
  whole (delivery : Delivery) (delivered : delivery ∈ r.delivered) :
    ∃ samples, samples.length = 2 * r.period.toNat ∧ delivery.chunk = packSamples r.format samples

theorem Unbroken.begun (frequency amplitude : Binary32) {r : Played} (silent : r.delivered = []) :
    r.Unbroken frequency amplitude where
  sound := by simp [silent, signal, Oscillator.stereo, packSamples]
  heard := by simp [silent]
  whole := by simp [silent]

/-- The thread of a run stands where its chunks so far end. -/
structure Continues (frequency amplitude : Binary32) (run : ToneRun) (r : Played) : Prop where
  format : run.format = r.format
  frames : run.frames = r.period.toNat
  listener : run.listener = r.listener
  oscillator : run.oscillator = (r.signal frequency amplitude).2

theorem Continues.chunk {frequency amplitude : Binary32} {run : ToneRun} {r : Played}
    (continues : Continues frequency amplitude run r) :
    run.chunk = packSamples r.format ((r.signal frequency amplitude).2.stereo r.period.toNat).1 := by
  simp only [ToneRun.chunk, continues.format, continues.frames, continues.oscillator]

theorem Unbroken.hear {frequency amplitude : Binary32} {run : ToneRun} {r : Played}
    {listener : Listener} (unbroken : r.Unbroken frequency amplitude)
    (continues : Continues frequency amplitude run r) (listens : run.listener = some listener) :
    (r.hear [⟨listener, run.chunk⟩]).Unbroken frequency amplitude where
  sound := by
    have format : (r.hear [⟨listener, run.chunk⟩]).format = r.format := rfl
    rw [signal_hear, format, packSamples_append, ← continues.chunk, ← unbroken.sound]
    simp [Played.hear]
  heard delivery delivered := by
    rcases List.mem_append.mp delivered with earlier | last
    · exact unbroken.heard delivery earlier
    · rw [List.mem_singleton.mp last]
      exact continues.listener.symm.trans listens
  whole delivery delivered := by
    rcases List.mem_append.mp delivered with earlier | last
    · exact unbroken.whole delivery earlier
    · rw [List.mem_singleton.mp last]
      exact ⟨_, (Oscillator.length_stereo ..).trans (Nat.mul_comm ..), continues.chunk⟩

theorem Continues.hear {frequency amplitude : Binary32} {run : ToneRun} {r : Played}
    (continues : Continues frequency amplitude run r) (delivery : Delivery) :
    Continues frequency amplitude run.advance (r.hear [delivery]) where
  format := continues.format
  frames := continues.frames
  listener := continues.listener
  oscillator := by rw [signal_hear, ToneRun.advance, continues.frames, continues.oscillator]

end Played

structure Performance where
  tone : Tone
  runs : List Played := []
  heard : List Delivery := []

namespace Tone

inductive Step
  | listen (listener : Listener)
  | prepare (format : Format)
  | start (spawn : Option OsError)
  | stop
  | requestStop
  | setPlaying (playing : Bool)
  | take (n : Nat)
  /-- The thread delivers the chunk that it was about to make when it was paused or asked to stop. -/
  | late

/-- The chunk that comes whatever the flags of the tone have become. -/
def late (tone : Tone) : Option Delivery × Tone :=
  let (delivery, after) := { tone with running := true, playing := true }.next
  (delivery, { after with running := tone.running, playing := tone.playing })

theorem next_cases (tone : Tone) :
    tone.next = (none, tone) ∨ ∃ run, tone.run = some run ∧
      (tone.next = (none, { tone with run := some { run with crashed := true } }) ∨
        ∃ listener, run.listener = some listener ∧
          tone.next = (some ⟨listener, run.chunk⟩, { tone with run := some run.advance })) := by
  unfold next
  cases tone.run with
  | none => exact .inl rfl
  | some run =>
    dsimp only
    split
    · exact .inl rfl
    · rename_i listener listens
      split
      · exact .inl rfl
      split
      · exact .inr ⟨run, rfl, .inl rfl⟩
      · exact .inr ⟨run, rfl, .inr ⟨listener, listens, rfl⟩⟩

end Tone

namespace Performance

def ofTone (frequency amplitude : Binary32) : Performance := { tone := { frequency, amplitude } }

def hear (p : Performance) (deliveries : List Delivery) (tone : Tone) : Performance where
  tone
  runs := p.runs.modifyHead (Played.hear deliveries)
  heard := p.heard ++ deliveries

def step (p : Performance) : Tone.Step → Performance
  | .listen listener => { p with tone := p.tone.listen listener }
  | .prepare format =>
    match Tone.prepare format p.tone with
    | .ok _ tone | .error _ tone => { p with tone }
  | .start spawn =>
    match p.tone.format, Tone.start spawn p.tone with
    | some format, .ok _ tone =>
      { p with tone, runs := { format, period := p.tone.period, listener := p.tone.listener } :: p.runs }
    | _, .ok _ tone | _, .error _ tone => { p with tone }
  | .stop => { p with tone := p.tone.stop }
  | .requestStop => { p with tone := p.tone.requestStop }
  | .setPlaying playing => { p with tone := p.tone.setPlaying playing }
  | .take n => p.hear (p.tone.take n).1 (p.tone.take n).2
  | .late => p.hear p.tone.late.1.toList p.tone.late.2

def run (p : Performance) (steps : List Tone.Step) : Performance := steps.foldl step p

theorem hear_nil (p : Performance) (tone : Tone) : p.hear [] tone = { p with tone } := by
  cases p with
  | mk _ runs _ => cases runs <;> simp [hear, Played.hear]

theorem hear_hear (p : Performance) (first second : List Delivery) (tone later : Tone) :
    (p.hear first tone).hear second later = p.hear (first ++ second) later := by
  cases p with
  | mk _ runs _ => cases runs <;> simp [hear, Played.hear]

theorem step_take_succ (p : Performance) (n : Nat) :
    p.step (.take (n + 1)) = (p.hear p.tone.next.1.toList p.tone.next.2).step (.take n) := by
  simp only [step, hear_hear]
  rfl

structure Sound (frequency amplitude : Binary32) (p : Performance) : Prop where
  pitch : p.tone.frequency = frequency
  volume : p.tone.amplitude = amplitude
  unbroken (r : Played) (played : r ∈ p.runs) : r.Unbroken frequency amplitude
  current (run : ToneRun) (present : p.tone.run = some run) :
    ∃ r earlier, p.runs = r :: earlier ∧ r.Continues frequency amplitude run
  heard : p.heard = p.runs.reverse.flatMap Played.delivered

namespace Sound

variable {frequency amplitude : Binary32} {p : Performance}

theorem ofTone (frequency amplitude : Binary32) :
    (ofTone frequency amplitude).Sound frequency amplitude where
  pitch := rfl
  volume := rfl
  unbroken := nofun
  current := nofun
  heard := rfl

theorem withTone (sound : p.Sound frequency amplitude) {tone : Tone}
    (pitch : tone.frequency = p.tone.frequency) (volume : tone.amplitude = p.tone.amplitude)
    (current : ∀ run, tone.run = some run →
      ∃ r earlier, p.runs = r :: earlier ∧ r.Continues frequency amplitude run) :
    Sound frequency amplitude { p with tone } where
  pitch := pitch.trans sound.pitch
  volume := volume.trans sound.volume
  unbroken := sound.unbroken
  current := current
  heard := sound.heard

theorem sameRun (sound : p.Sound frequency amplitude) {tone : Tone}
    (pitch : tone.frequency = p.tone.frequency) (volume : tone.amplitude = p.tone.amplitude)
    (same : tone.run = p.tone.run) : Sound frequency amplitude { p with tone } :=
  sound.withTone pitch volume fun run present => sound.current run (same.symm.trans present)

theorem deliver (sound : p.Sound frequency amplitude) {run : ToneRun} {listener : Listener}
    (present : p.tone.run = some run) (listens : run.listener = some listener) :
    (p.hear [⟨listener, run.chunk⟩] { p.tone with run := some run.advance }).Sound
      frequency amplitude := by
  obtain ⟨r, earlier, runs, continues⟩ := sound.current run present
  have unbroken : ∀ other ∈ r :: earlier, other.Unbroken frequency amplitude := runs ▸ sound.unbroken
  have ⟨latest, others⟩ := List.forall_mem_cons.mp unbroken
  constructor
  case pitch => exact sound.pitch
  case volume => exact sound.volume
  case unbroken =>
    simp only [hear, runs, List.modifyHead_cons]
    exact List.forall_mem_cons.mpr ⟨latest.hear continues listens, others⟩
  case current =>
    intro run' present'
    cases present'
    exact ⟨r.hear [⟨listener, run.chunk⟩], earlier, by simp only [hear, runs, List.modifyHead_cons],
      continues.hear _⟩
  case heard => simp [hear, sound.heard, runs, Played.hear]

theorem next (sound : p.Sound frequency amplitude) :
    (p.hear p.tone.next.1.toList p.tone.next.2).Sound frequency amplitude := by
  obtain quiet | ⟨run, present, crashes | ⟨listener, listens, delivers⟩⟩ := p.tone.next_cases
  · rw [quiet]
    exact (hear_nil p p.tone).symm ▸ sound
  · rw [crashes]
    -- The thread ends without having delivered, so its oscillator stands where it stood.
    refine (hear_nil p _).symm ▸ sound.withTone rfl rfl fun run' present' => ?_
    obtain ⟨r, earlier, runs, continues⟩ := sound.current run present
    cases present'
    exact ⟨r, earlier, runs, continues.format, continues.frames, continues.listener,
      continues.oscillator⟩
  · rw [delivers]
    exact sound.deliver present listens

theorem take (sound : p.Sound frequency amplitude) (n : Nat) :
    (p.step (.take n)).Sound frequency amplitude := by
  -- One chunk after the other, for every performance that is sound.
  induction n generalizing p with
  | zero =>
    change (p.hear [] p.tone).Sound frequency amplitude
    exact (hear_nil p p.tone).symm ▸ sound
  | succ n ih =>
    rw [step_take_succ]
    exact ih sound.next

theorem late (sound : p.Sound frequency amplitude) : (p.step .late).Sound frequency amplitude := by
  -- The chunk under way is the next one of a tone that was neither paused nor asked to stop.
  have woken : Sound frequency amplitude
      { p with tone := { p.tone with running := true, playing := true } } :=
    sound.sameRun rfl rfl rfl
  exact woken.next.sameRun rfl rfl rfl

theorem start (sound : p.Sound frequency amplitude) (spawn : Option OsError) :
    (p.step (.start spawn)).Sound frequency amplitude := by
  simp only [Performance.step, Tone.start]
  cases initialised : p.tone.format with
  | none => exact sound.sameRun rfl rfl rfl
  | some format =>
    cases running : p.tone.running with
    | true => exact sound.sameRun rfl rfl rfl
    | false =>
      cases spawn with
      | some e => exact sound.withTone rfl rfl fun run present => by cases present
      | none =>
        let begun : Played := { format, period := p.tone.period, listener := p.tone.listener }
        constructor
        case pitch => exact sound.pitch
        case volume => exact sound.volume
        case unbroken =>
          exact List.forall_mem_cons.mpr ⟨Played.Unbroken.begun _ _ rfl, sound.unbroken⟩
        case current =>
          intro run present
          cases present
          refine ⟨begun, p.runs, rfl, rfl, rfl, rfl, ?_⟩
          simp [begun, Played.signal, Oscillator.stereo, sound.pitch, sound.volume]
        case heard => simp [sound.heard]

theorem step (sound : p.Sound frequency amplitude) (step : Tone.Step) :
    (p.step step).Sound frequency amplitude := by
  cases step with
  | listen listener => exact sound.sameRun rfl rfl rfl
  | prepare format =>
    simp only [Performance.step, Tone.prepare]
    cases format.validate <;> exact sound.sameRun rfl rfl rfl
  | start spawn => exact sound.start spawn
  | stop => exact sound.withTone rfl rfl fun run present => by cases present
  | requestStop => exact sound.sameRun rfl rfl rfl
  | setPlaying playing => exact sound.sameRun rfl rfl rfl
  | take n => exact sound.take n
  | late => exact sound.late

theorem run (sound : p.Sound frequency amplitude) (steps : List Tone.Step) :
    (p.run steps).Sound frequency amplitude := by
  induction steps generalizing p with
  | nil => exact sound
  | cons step rest ih => exact ih (sound.step step)

end Sound

/-- The chunks of every run are one tone from phase zero, in the format and the periods of its start
and for the listener of its start; and no chunk is delivered outside a run. A chunk holds as many
frames of two samples as the period of its run. -/
theorem run_unbroken (frequency amplitude : Binary32) (steps : List Tone.Step) :
    let p := (ofTone frequency amplitude).run steps
    (∀ r ∈ p.runs,
      let frames := r.delivered.length * r.period.toNat
      let tone := ((Oscillator.start frequency amplitude r.format.rate).stereo frames).1
      tone.length = 2 * frames ∧
        (r.delivered.map Delivery.chunk).flatten = packSamples r.format tone ∧
        ∀ delivery ∈ r.delivered, r.listener = some delivery.listener ∧
          ∃ samples, samples.length = 2 * r.period.toNat ∧
            delivery.chunk = packSamples r.format samples) ∧
      p.heard = p.runs.reverse.flatMap Played.delivered := by
  have sound := (Sound.ofTone frequency amplitude).run steps
  refine ⟨fun r played => ?_, sound.heard⟩
  have unbroken := sound.unbroken r played
  exact ⟨(Oscillator.length_stereo ..).trans (Nat.mul_comm ..), unbroken.sound,
    fun delivery delivered => ⟨unbroken.heard delivery delivered, unbroken.whole delivery delivered⟩⟩

/-- A run that is paused with a chunk under way, goes on after the tone was prepared for another
format and another listener, and is followed by a run in that format. -/
theorem run_unbroken_of_paused :
    let steps : List Tone.Step :=
      [.listen ⟨"speaker", false⟩, .prepare .standard, .start none, .take 2,
        .setPlaying false, .late, .take 3, .prepare ⟨.float, 32, 44100⟩, .listen ⟨"recorder", false⟩,
        .setPlaying true, .take 2, .requestStop, .late, .start none, .take 1]
    let p := (ofTone ⟨0x43dc0000⟩ ⟨0x3f000000⟩).run steps
    let tone := ((Oscillator.start ⟨0x43dc0000⟩ ⟨0x3f000000⟩ 48000).stereo 2880).1
    ∃ later r, p.runs = [later, r] ∧
      (r.format = .standard ∧ r.delivered.length = 6) ∧
      (later.format = ⟨.float, 32, 44100⟩ ∧ later.delivered.length = 1) ∧
      tone.length = 5760 ∧ (r.delivered.map Delivery.chunk).flatten = packSamples .standard tone := by
  intro steps p tone
  have played := (run_unbroken ⟨0x43dc0000⟩ ⟨0x3f000000⟩ steps).1
  refine ⟨_, _, rfl, ⟨rfl, rfl⟩, ⟨rfl, rfl⟩, ?_⟩
  obtain ⟨length, sound, -⟩ := played _ (.tail _ (.head _))
  exact ⟨length, sound⟩

end Performance

end Capture

end PairedAudio
