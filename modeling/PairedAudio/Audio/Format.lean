import PairedAudio.Error
import PairedAudio.Text.White

/-! Audio formats: an encoding of samples, a number of bits for each, and a sample rate. A format
is written as three words, and read from any three words that name one. -/

set_option autoImplicit false

namespace PairedAudio.Audio

open Text (decimal words numeral?)

inductive Encoding
  | pcm
  | float
  deriving DecidableEq, Repr

namespace Encoding

def name : Encoding → String
  | pcm => "pcm"
  | float => "float"

def wireCode : Encoding → Int32
  | pcm => 0
  | float => 1

def ofName? (name : List Char) : Option Encoding :=
  if name = ['p', 'c', 'm'] then some pcm
  else if name = ['f', 'l', 'o', 'a', 't'] then some float
  else none

end Encoding

structure Format where
  encoding : Encoding
  bits : UInt16
  rate : UInt32
  deriving DecidableEq, Repr

inductive FormatError
  | rateOutOfRange (rate : UInt32)
  | unsupportedDepth (bits : UInt16)
  | floatDepth (bits : UInt16)
  | wordCount (count : Nat)
  | depthNumeral (text : List Char)
  | rateNumeral (text : List Char)
  | unknownEncoding (name : List Char)
  deriving DecidableEq, Repr

namespace Format

def maximumRate : UInt32 := 768000

def standard : Format := ⟨.pcm, 16, 48000⟩

def bytesPerSample (f : Format) : Nat := f.bits.toNat / 8

def bytesPerFrame (f : Format) (channels : UInt16) : Nat := f.bytesPerSample * channels.toNat

def text (f : Format) : String :=
  s!"{f.encoding.name} {decimal f.bits.toNat} {decimal f.rate.toNat}"

end Format

namespace FormatError

def message : FormatError → String
  | rateOutOfRange rate =>
    s!"sample rate {decimal rate.toNat} outside 1..={decimal Format.maximumRate.toNat}"
  | unsupportedDepth bits => s!"unsupported pcm bit depth: {decimal bits.toNat}"
  | floatDepth bits => s!"float samples must be 32-bit, got {decimal bits.toNat}"
  | wordCount count => s!"expected 3 tokens \"<pcm|float> <bits> <rate>\", got {decimal count}"
  | depthNumeral text => "bad bit depth: " ++ String.ofList text
  | rateNumeral text => "bad sample rate: " ++ String.ofList text
  | unknownEncoding name => "unknown sample format: " ++ String.ofList name

def asCapture (e : FormatError) : CaptureError := .invalidFormat e.message

end FormatError

namespace Format

/-- A rate in range, and a depth that the encoding has; the rate is looked at first. -/
def validate (f : Format) : Except FormatError Unit :=
  if f.rate = 0 ∨ maximumRate < f.rate then .error (.rateOutOfRange f.rate)
  else match f.encoding with
    | .pcm =>
      if f.bits = 16 ∨ f.bits = 24 ∨ f.bits = 32 then .ok () else .error (.unsupportedDepth f.bits)
    | .float => if f.bits = 32 then .ok () else .error (.floatDepth f.bits)

/-- Reads the three words of a format. Float samples have 32 bits whatever depth is written. -/
def ofWords (words : List (List Char)) : Except FormatError Format :=
  match words with
  | [name, depth, rate] =>
    match numeral? 65535 depth with
    | none => .error (.depthNumeral depth)
    | some bits =>
      match numeral? 4294967295 rate with
      | none => .error (.rateNumeral rate)
      | some rate =>
        match Encoding.ofName? name with
        | none => .error (.unknownEncoding name)
        | some encoding =>
          let bits := match encoding with
            | .pcm => UInt16.ofNat bits
            | .float => 32
          let format : Format := ⟨encoding, bits, UInt32.ofNat rate⟩
          format.validate.map fun _ => format
  | _ => .error (.wordCount words.length)

def parse (text : List Char) : Except FormatError Format := ofWords (words text)

end Format

end PairedAudio.Audio
