import PairedAudio.Audio.Binary32
import PairedAudio.Audio.Format
import PairedAudio.Wire.Integer

/-! Samples as bytes. A sample is a number between -1 and 1, and what lies beyond is taken as the
nearer end. Integer formats multiply it by their greatest value and cut off the fraction. -/

set_option autoImplicit false

namespace PairedAudio.Audio

open Wire (bytesOf signedBytes)

/-- The bytes of one sample. Sixteen-bit samples are multiplied in single precision, wider ones in
double precision; any integer depth other than 16 and 24 is written in four bytes. -/
def packSample (format : Format) (sample : Binary32) : List UInt8 :=
  let x := sample.clampUnit
  match format.encoding with
  | .float => bytesOf 4 x.bits.toNat
  | .pcm =>
    if format.bits = 16 then signedBytes 2 (x.scale 24 32767)
    else if format.bits = 24 then signedBytes 3 (x.scale 53 8388607)
    else signedBytes 4 (x.scale 53 2147483647)

def packSamples (format : Format) (samples : List Binary32) : List UInt8 :=
  samples.flatMap (packSample format)

def appendSamples (format : Format) (samples : List Binary32) (buffer : List UInt8) : List UInt8 :=
  buffer ++ packSamples format samples

/-- The frames of a period of `ms` milliseconds, with 2³² - 1 as the greatest answer. -/
def framesPerPeriod (rate ms : UInt32) : UInt32 :=
  UInt32.ofNat (min (rate.toNat * ms.toNat / 1000) 4294967295)

end PairedAudio.Audio
