import PairedAudio.Audio.Sine

/-! A sine oscillator in single precision. Its phase goes on from one sample to the next and is
kept below a full turn. -/

set_option autoImplicit false

namespace PairedAudio.Audio

structure Oscillator where
  phase : Binary32
  step : Binary32
  amplitude : Binary32
  deriving DecidableEq

namespace Oscillator

def turn : Binary32 := ⟨0x40c90fdb⟩

def start (frequency amplitude : Binary32) (rate : UInt32) : Oscillator :=
  ⟨⟨0⟩, (turn.mul frequency).div (.ofRatio rate.toNat 1), amplitude⟩

def value (o : Oscillator) : Binary32 := o.amplitude.mul (Sine.sine o.phase)

def advance (o : Oscillator) : Oscillator := { o with phase := (o.phase.add o.step).rem turn }

/-- The next `n` frames, each the same sample on two channels, and the oscillator behind them. -/
def stereo : Nat → Oscillator → List Binary32 × Oscillator
  | 0, o => ([], o)
  | n + 1, o =>
    let (rest, last) := stereo n o.advance
    (o.value :: o.value :: rest, last)

end Oscillator

end PairedAudio.Audio
