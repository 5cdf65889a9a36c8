import PairedAudio.Audio.Binary32
import PairedAudio.Audio.Format
import PairedAudio.Capture.Monitor.Source
import PairedAudio.Error

/-! The input devices of a host, how one of them is chosen, and how a sample type is negotiated
with it. -/

set_option autoImplicit false

namespace PairedAudio.Capture

open Audio

inductive NativeType
  | i16
  | i32
  | f32
  deriving DecidableEq, Repr

def NativeType.name : NativeType → String
  | i16 => "I16"
  | i32 => "I32"
  | f32 => "F32"

/-- A set of configurations that a device supports; the type is none if a stream cannot have it. -/
structure ConfigRange where
  channels : UInt16
  type : Option NativeType
  minRate : UInt32
  maxRate : UInt32
  deriving DecidableEq, Repr

/-- An input device. Its name and its configurations may be unreadable, and opening a stream on it
may fail while building it, while starting it, or by a crash. -/
structure InputDevice where
  name : Option String
  ranges : Except String (List ConfigRange)
  buildRefusal : Option String := none
  playRefusal : Option String := none
  buildCrashes : Bool := false

structure Host where
  devices : Except String (List InputDevice)
  fallback : Option InputDevice := none

namespace Host

/-- An unreadable name counts as the empty one. -/
def nameOf (device : InputDevice) : String := device.name.getD ""

def listing (host : Host) : Except CaptureError (List InputDevice) :=
  host.devices.mapError fun text => .configurationFailed s!"cannot list input devices: {text}"

def named (wanted : String) (host : Host) : Except CaptureError InputDevice := do
  match (← host.listing).find? fun device => nameOf device == wanted with
  | some device => return device
  | none => throw .deviceNotAvailable

/-- A chosen device, the name it is known by, and whether it is the host's default input, taken for
want of a sound server's device. -/
structure Choice where
  device : InputDevice
  name : String
  isFallback : Bool

def choose (host : Host) : Except CaptureError Choice := do
  let devices ← host.listing
  match (Source.preferred? (devices.map nameOf)).bind fun i => devices[i]? with
  | some device => return ⟨device, nameOf device, false⟩
  | none =>
    match host.fallback with
    | some device => return ⟨device, device.name.getD "default", true⟩
    | none => throw .deviceNotAvailable

end Host

namespace NativeType

def candidates (format : Format) : List NativeType :=
  match format.encoding with
  | .float => [f32, i32, i16]
  | .pcm => if format.bits = 16 then [i16, f32, i32] else [i32, f32, i16]

def supportedBy (type : NativeType) (rate : UInt32) (range : ConfigRange) : Bool :=
  range.channels == 2 && range.type == some type && range.minRate ≤ rate && rate ≤ range.maxRate

def negotiate (device : InputDevice) (name : String) (format : Format) :
    Except CaptureError NativeType := do
  let ranges ← device.ranges.mapError fun text =>
    CaptureError.configurationFailed s!"cannot query {name}: {text}"
  match (candidates format).find? fun type => ranges.any (type.supportedBy format.rate) with
  | some type => return type
  | none => throw (.invalidFormat s!"{name} cannot record {format.text} in stereo")

end NativeType

structure Recorded where
  i16 : List Int := []
  i32 : List Int := []
  f32 : List Binary32 := []

/-- The samples that a stream of a type is given: integers as fractions of their full scale. -/
def Recorded.samples (r : Recorded) : NativeType → List Binary32
  | .i16 => r.i16.map fun v => .ofRatio v 32768
  | .i32 => r.i32.map fun v => .ofRatio v 2147483648
  | .f32 => r.f32

end PairedAudio.Capture
