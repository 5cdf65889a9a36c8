import PairedAudio.Audio.Format
import PairedAudio.Text.Numeral

/-! The description of a wave format that an audio engine takes. Its derived sizes are computed in the
widths of its fields, and there is none when a product goes beyond its width. -/

set_option autoImplicit false

namespace PairedAudio.Capture

open Audio (Encoding Format)
open Text (decimal)

structure StreamShape where
  format : Format
  channels : UInt16
  deriving DecidableEq, Repr

def product16? (a b : UInt16) : Option UInt16 :=
  if a.toNat * b.toNat < UInt16.size then some (a * b) else none

def product32? (a b : UInt32) : Option UInt32 :=
  if a.toNat * b.toNat < UInt32.size then some (a * b) else none

def product64? (a b : Int64) : Option Int64 :=
  let product := a.toInt * b.toInt
  if Int64.minValue.toInt ≤ product ∧ product ≤ Int64.maxValue.toInt then some (a * b) else none

structure WaveFormat where
  tag : UInt16
  channels : UInt16
  rate : UInt32
  bytesPerSecond : UInt32
  blockAlign : UInt16
  bits : UInt16
  extraSize : UInt16
  deriving DecidableEq, Repr

namespace StreamShape

def blockAlign? (s : StreamShape) : Option UInt16 := do
  let bits ← product16? s.channels s.format.bits
  return bits / 8

def waveFormat? (s : StreamShape) : Option WaveFormat := do
  let blockAlign ← s.blockAlign?
  let bytesPerSecond ← product32? s.format.rate blockAlign.toUInt32
  return {
    tag := match s.format.encoding with
      | .pcm => 1
      | .float => 3
    channels := s.channels
    rate := s.format.rate
    bytesPerSecond
    blockAlign
    bits := s.format.bits
    extraSize := 0 }

end StreamShape

/-- The frames of a device period given in units of 100 ns, kept in 32 bits. -/
def periodFrames? (period : Int64) (rate : UInt32) : Option UInt32 := do
  let product ← product64? period (Int64.ofNat rate.toNat)
  return (product / 10000000).toUInt64.toUInt32

namespace WaveFormat

def text (w : WaveFormat) : String :=
  let fields := [w.tag.toNat, w.channels.toNat, w.rate.toNat, w.bytesPerSecond.toNat,
    w.blockAlign.toNat, w.bits.toNat, w.extraSize.toNat]
  "[" ++ ", ".intercalate (fields.map decimal) ++ "]"

end WaveFormat

end PairedAudio.Capture
