import PairedAudio.Audio.Oscillator
import PairedAudio.Audio.Sample
import PairedAudio.Capture.Device

/-! A capture without a device: a sine tone, delivered one period of ten milliseconds at a time.
Each start begins a run of its own, which keeps the format, the period and the listener of that
moment and begins at phase zero. -/

set_option autoImplicit false

namespace PairedAudio.Capture

open Audio

structure ToneRun where
  listener : Option Listener
  format : Format
  frames : Nat
  oscillator : Oscillator
  crashed : Bool := false

namespace ToneRun

def chunk (run : ToneRun) : List UInt8 :=
  packSamples run.format (run.oscillator.stereo run.frames).1

def advance (run : ToneRun) : ToneRun :=
  { run with oscillator := (run.oscillator.stereo run.frames).2 }

end ToneRun

structure Tone where
  frequency : Binary32
  amplitude : Binary32
  format : Option Format := none
  period : UInt32 := 0
  listener : Option Listener := none
  running : Bool := false
  playing : Bool := true
  run : Option ToneRun := none

namespace Tone

def channels : UInt16 := 2

def periodLength : UInt32 := 10

/-- 440 Hz at half of full scale. -/
def standard : Tone := { frequency := ⟨0x43dc0000⟩, amplitude := ⟨0x3f000000⟩ }

def listen (listener : Listener) (tone : Tone) : Tone := { tone with listener := some listener }

/-- A refused format leaves the parameters as they are. -/
def prepare (format : Format) : EStateM CaptureError Tone Unit := fun tone =>
  match format.validate with
  | .error e => .error e.asCapture tone
  | .ok () =>
    .ok () { tone with format := some format, period := framesPerPeriod format.rate periodLength }

def spawnRefused (e : OsError) : CaptureError := .unknown s!"failed to spawn tone thread: {e.message}"

/-- Begins a run. The capture counts as running before its thread is spawned, and still does when
spawning fails. -/
def start (spawn : Option OsError) : EStateM CaptureError Tone Unit := fun tone =>
  match tone.format with
  | none => .error (.configurationFailed "device not initialised") tone
  | some format =>
    if tone.running then .error (.configurationFailed "test tone capture already running") tone
    else
      let tone := { tone with running := true, playing := true, run := none }
      match spawn with
      | some e => .error (spawnRefused e) tone
      | none =>
        let run : ToneRun :=
          { listener := tone.listener, format, frames := tone.period.toNat,
            oscillator := .start tone.frequency tone.amplitude format.rate }
        .ok () { tone with run := some run }

def stop (tone : Tone) : Tone := { tone with running := false, run := none }

def requestStop (tone : Tone) : Tone := { tone with running := false }

def setPlaying (playing : Bool) (tone : Tone) : Tone := { tone with playing }

def advertised (tone : Tone) : Advertised :=
  match tone.format with
  | some f => ⟨f.encoding, f.bits, channels, f.rate, tone.period⟩
  | none => ⟨.pcm, 0, channels, 0, tone.period⟩

/-- The next chunk of the current run and who it goes to; none while the capture does not run, is
paused, or has nobody to deliver to. -/
def next (tone : Tone) : Option Delivery × Tone :=
  match tone.run with
  | none => (none, tone)
  | some run =>
    match run.listener with
    | none => (none, tone)
    | some listener =>
      if !tone.running || !tone.playing || run.crashed then (none, tone)
      else if listener.crashes then (none, { tone with run := some { run with crashed := true } })
      else (some ⟨listener, run.chunk⟩, { tone with run := some run.advance })

def take : Nat → Tone → List Delivery × Tone
  | 0, tone => ([], tone)
  | n + 1, tone =>
    let (delivery, tone) := tone.next
    let (rest, tone) := take n tone
    (delivery.toList ++ rest, tone)

def device : Device Tone where
  listen := listen
  prepare format := refusable (prepare format)
  start := refusable (start none)
  stop := stop
  requestStop := requestStop
  setPlaying playing := fun tone => .ok () (tone.setPlaying playing)
  advertised := advertised

end Tone

end PairedAudio.Capture
