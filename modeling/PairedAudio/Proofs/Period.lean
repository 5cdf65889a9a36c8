import PairedAudio.Capture.Tone

/-! The bytes of one period.

A valid format gives every sample the same number of bytes, so the chunks of a tone are all of one
length: that of a period in the format. At the highest rate it is 61440 bytes.
-/

set_option autoImplicit false

namespace PairedAudio

open Audio

namespace Audio

theorem Format.valid_parts {f : Format} (valid : f.validate = .ok ()) :
    f.rate.toNat ≤ 768000 ∧
      (f.encoding = .float ∧ f.bits = 32 ∨
        f.encoding = .pcm ∧ (f.bits = 16 ∨ f.bits = 24 ∨ f.bits = 32)) := by
  unfold validate at valid
  split at valid
  · cases valid
  · rename_i inRange
    have bound : f.rate.toNat ≤ 768000 := Nat.not_lt.mp fun above => inRange (.inr above)
    split at valid <;> split at valid
    · exact ⟨bound, .inr ⟨‹_›, ‹_›⟩⟩
    · cases valid
    · exact ⟨bound, .inl ⟨‹_›, ‹_›⟩⟩
    · cases valid

theorem Format.bytesPerSample_le {f : Format} (valid : f.validate = .ok ()) : f.bytesPerSample ≤ 4 := by
  obtain ⟨-, ⟨-, bits⟩ | ⟨-, bits | bits | bits⟩⟩ := f.valid_parts valid <;>
    simp [bytesPerSample, bits]

theorem length_packSample {f : Format} (valid : f.validate = .ok ()) (sample : Binary32) :
    (packSample f sample).length = f.bytesPerSample := by
  obtain ⟨-, ⟨encoding, bits⟩ | ⟨encoding, bits | bits | bits⟩⟩ := f.valid_parts valid <;>
    simp [packSample, Format.bytesPerSample, encoding, bits]

theorem length_packSamples {f : Format} (valid : f.validate = .ok ()) (samples : List Binary32) :
    (packSamples f samples).length = samples.length * f.bytesPerSample := by
  induction samples with
  | nil => simp [packSamples]
  | cons sample rest ih =>
    have split : packSamples f (sample :: rest) = packSample f sample ++ packSamples f rest := rfl
    rw [split, List.length_append, length_packSample valid, ih, List.length_cons, Nat.succ_mul,
      Nat.add_comm]

theorem Oscillator.length_stereo (n : Nat) (o : Oscillator) : (o.stereo n).1.length = n * 2 := by
  induction n generalizing o with
  | zero => rfl
  | succ n ih => simp [stereo, ih, Nat.succ_mul]

theorem toNat_framesPerPeriod {rate : UInt32} (bound : rate.toNat ≤ 768000) :
    (framesPerPeriod rate 10).toNat = rate.toNat * 10 / 1000 := by
  have ten : (10 : UInt32).toNat = 10 := rfl
  rw [framesPerPeriod, UInt32.toNat_ofNat', ten]
  omega

end Audio

open Capture (Tone ToneRun)

def periodBytes (f : Format) : Nat :=
  (framesPerPeriod f.rate Tone.periodLength).toNat * f.bytesPerFrame Tone.channels

theorem periodBytes_le {f : Format} (valid : f.validate = .ok ()) : periodBytes f ≤ 61440 := by
  have rate := (f.valid_parts valid).1
  have frames : (framesPerPeriod f.rate Tone.periodLength).toNat ≤ 7680 := by
    rw [Tone.periodLength, toNat_framesPerPeriod rate]
    omega
  have frame : f.bytesPerFrame Tone.channels ≤ 8 := by
    have sample := f.bytesPerSample_le valid
    have two : Tone.channels.toNat = 2 := rfl
    rw [Format.bytesPerFrame, two]
    omega
  exact Nat.mul_le_mul frames frame

theorem length_chunk {run : ToneRun} {f : Format} (valid : f.validate = .ok ())
    (format : run.format = f)
    (frames : run.frames = (framesPerPeriod f.rate Tone.periodLength).toNat) :
    run.chunk.length = periodBytes f := by
  have two : Tone.channels.toNat = 2 := rfl
  rw [ToneRun.chunk, format, length_packSamples valid, Oscillator.length_stereo, frames, periodBytes,
    Format.bytesPerFrame, two, Nat.mul_assoc, Nat.mul_comm 2]

end PairedAudio
