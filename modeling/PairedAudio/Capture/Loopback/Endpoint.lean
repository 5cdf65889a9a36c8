import PairedAudio.Capture.Loopback.Wave

/-! The render endpoint as a loopback capture meets it: the calls into the audio system, the
failures that are due, and the queue of packets to fetch. -/

set_option autoImplicit false

namespace PairedAudio.Capture

open Text (decimal)

inductive SystemCall
  | enterApartment
  | createEnumerator
  | defaultEndpoint
  | activate
  | mixFormat
  | freeMixFormat
  | devicePeriod
  | prepare (wave : WaveFormat)
  | service
  | raisePriority
  | start
  | nextPacketSize
  | getBuffer
  | releaseBuffer (frames : UInt32)
  | stop
  | leaveApartment
  deriving DecidableEq, Repr

namespace SystemCall

def name : SystemCall → String
  | enterApartment => "CoInitializeEx"
  | createEnumerator => "CoCreateInstance"
  | defaultEndpoint => "GetDefaultAudioEndpoint"
  | activate => "Activate"
  | mixFormat => "GetMixFormat"
  | freeMixFormat => "CoTaskMemFree"
  | devicePeriod => "GetDevicePeriod"
  | prepare _ => "Initialize"
  | service => "GetService"
  | raisePriority => "AvSetMmThreadCharacteristicsW"
  | start => "Start"
  | nextPacketSize => "GetNextPacketSize"
  | getBuffer => "GetBuffer"
  | releaseBuffer _ => "ReleaseBuffer"
  | stop => "Stop"
  | leaveApartment => "CoUninitialize"

/-- The call with its arguments: the free-threaded apartment, the render endpoint of the console
role, shared loopback with conversion and default quality, and a buffer of 100 ms. -/
def text : SystemCall → String
  | enterApartment => "CoInitializeEx 0"
  | defaultEndpoint => "GetDefaultAudioEndpoint 0 0"
  | freeMixFormat => "CoTaskMemFree mix format"
  | prepare wave => s!"Initialize mode 0 flags 88020000 duration 1000000 period 0 format {wave.text}"
  | raisePriority => "AvSetMmThreadCharacteristicsW Pro Audio"
  | releaseBuffer frames => s!"ReleaseBuffer {decimal frames.toNat}"
  | call => call.name

def canFail : SystemCall → Bool
  | freeMixFormat | leaveApartment => false
  | _ => true

end SystemCall

/-- A failure that is due at the call of a name, after so many others of that name. -/
structure DueFailure where
  call : String
  skip : Nat
  text : String
  deriving DecidableEq, Repr

/-- A packet to fetch. Its buffer may be missing, and its flags may declare it silent. -/
structure RenderPacket where
  data : List UInt8
  frames : UInt32
  flags : UInt32
  missing : Bool
  deriving DecidableEq, Repr

def resized (length : Nat) (bytes : List UInt8) : List UInt8 :=
  bytes.take length ++ List.replicate (length - bytes.length) 0

namespace RenderPacket

def isSilent (p : RenderPacket) : Bool := p.flags &&& 2 != 0

def size (p : RenderPacket) (align : UInt16) : Nat := p.frames.toNat * align.toNat

def bytes (p : RenderPacket) (align : UInt16) : List UInt8 := resized (p.size align) p.data

end RenderPacket

structure Endpoint where
  channels : UInt16
  period : Int64
  queue : List RenderPacket := []
  due : List DueFailure := []

/-- Counts a call of a name against the first failure that is due for it: the failure's text if
it comes now, and the failures that are due afterwards. -/
def countCall (name : String) : List DueFailure → Option String × List DueFailure
  | [] => (none, [])
  | failure :: rest =>
    if failure.call = name then
      match failure.skip with
      | 0 => (some failure.text, rest)
      | skip + 1 => (none, { failure with skip } :: rest)
    else
      let (text, rest) := countCall name rest
      (text, failure :: rest)

end PairedAudio.Capture
