import PairedAudio.Audio.Sample
import PairedAudio.Capture.Device
import PairedAudio.Capture.Monitor.Host
import PairedAudio.Text.Quoted

/-! Capture of a sound server's monitor. Initialising chooses a device and negotiates a sample type
with it; starting opens the stream on a thread of its own, which looks for the device by its name
again. -/

set_option autoImplicit false

namespace PairedAudio.Capture

open Audio
open Text (decimal quote)

inductive HostCall
  | build (name : Option String) (type : NativeType) (channels : UInt16) (rate : UInt32)
  | play
  | close
  deriving DecidableEq, Repr

namespace HostCall

def nameText : Option String → String
  | none => "None"
  | some name => s!"Some({quote name.toList})"

def text : HostCall → String
  | build name type channels rate =>
    s!"build {nameText name} {type.name} channels {decimal channels.toNat} rate {decimal rate.toNat} " ++
      "buffer Default timeout None"
  | play => "play"
  | close => "close"

end HostCall

structure MonitorStream where
  type : NativeType
  format : Format
  listener : Option Listener

/-- The capture thread until it is joined: it holds its stream while that is open. -/
structure MonitorThread where
  stream : Option MonitorStream := none
  crashed : Bool := false

structure Monitor where
  deviceName : Option String := none
  native : NativeType := .f32
  format : Option Format := none
  period : UInt32 := 0
  listener : Option Listener := none
  running : Bool := false
  playing : Bool := true
  thread : Option MonitorThread := none
  trace : Trace HostCall := {}

namespace Monitor

def channels : UInt16 := 2

def periodLength : UInt32 := 10

def call (c : HostCall) (m : Monitor) : Monitor := { m with trace := m.trace.call c }

def log (line : Line) (m : Monitor) : Monitor := { m with trace := m.trace.line line }

def listen (listener : Listener) (m : Monitor) : Monitor := { m with listener := some listener }

/-- Without parameters; the native type alone is kept. -/
def forget (m : Monitor) : Monitor := { m with format := none, deviceName := none, period := 0 }

def logFallback (choice : Host.Choice) (m : Monitor) : Monitor :=
  if choice.isFallback then
    m.log (.warn s!"no PulseAudio or PipeWire PCM found, using {choice.name}")
  else m

/-- A refused format changes nothing; any later failure leaves no parameters. -/
def prepare (host : Host) (format : Format) : EStateM CaptureError Monitor Unit := fun m =>
  match format.validate with
  | .error e => .error e.asCapture m
  | .ok () =>
    match host.choose with
    | .error e => .error e m.forget
    | .ok choice =>
      let m := m.forget.logFallback choice
      match NativeType.negotiate choice.device choice.name format with
      | .error e => .error e m
      | .ok native =>
        .ok () { m with
          native
          deviceName := some choice.name
          period := framesPerPeriod format.rate periodLength
          format := some format }

def closeStream (m : Monitor) : Monitor :=
  match m.thread with
  | some { stream := some _, crashed } => { m.call .close with thread := some { crashed } }
  | _ => m

def join (m : Monitor) : Monitor :=
  match m.closeStream.thread with
  | none => m
  | some thread =>
    let m := { m.closeStream with thread := none }
    if thread.crashed then m.log (.error "monitor capture thread panicked") else m

def stop (m : Monitor) : Monitor := { m with running := false }.join

/-- The capture thread sees the request at its next look and closes its stream. -/
def requestStop (m : Monitor) : Monitor := { m with running := false }.closeStream

def setPlaying (playing : Bool) (m : Monitor) : Monitor := { m with playing }

inductive OpenFailure
  | refused (error : CaptureError)
  | crashed

/-- Builds and plays a stream on a device. A stream that does not play is closed. -/
def openOn (device : InputDevice) (format : Format) : EStateM OpenFailure Monitor Unit := fun m =>
  if device.buildCrashes then .error .crashed m
  else
    let m := m.call (.build device.name m.native channels format.rate)
    match device.buildRefusal with
    | some text => .error (.refused (.configurationFailed s!"failed to build monitor stream: {text}")) m
    | none =>
      let m := m.call .play
      match device.playRefusal with
      | some text =>
        .error (.refused (.unknown s!"failed to start monitor stream: {text}")) (m.call .close)
      | none => .ok () { m with thread := some { stream := some ⟨m.native, format, m.listener⟩ } }

def openStream (host : Host) (name : String) (format : Format) :
    EStateM OpenFailure Monitor Unit := fun m =>
  match host.named name with
  | .error e => .error (.refused e) m
  | .ok device => openOn device format m

def spawnRefused (e : OsError) : CaptureError :=
  .unknown s!"failed to spawn monitor thread: {e.message}"

/-- Waits until the stream plays that the capture thread opens. A stream that cannot be opened stops
the capture again. -/
def await (opening : EStateM OpenFailure Monitor Unit) : EStateM CaptureError Monitor Unit := fun m =>
  match opening m with
  | .ok () m => .ok () m
  | .error (.refused e) m => .error e (m.log (.error s!"monitor capture error: {e.message}")).stop
  | .error .crashed m =>
    .error (.unknown "monitor stream did not start")
      { m with thread := some { crashed := true } }.stop

/-- Starts the capture thread and waits until its stream plays. A thread that cannot be spawned leaves
the capture counted as running. -/
def start (host : Host) (spawn : Option OsError) : EStateM CaptureError Monitor Unit := fun m =>
  match m.format, m.deviceName with
  | some format, some name =>
    if m.running then .error (.configurationFailed "monitor capture already running") m
    else
      let m := { m.join with running := true, playing := true }
      match spawn with
      | some e => .error (spawnRefused e) m
      | none => await (openStream host name format) m
  | _, _ => .error (.configurationFailed "device not initialised") m

def advertised (m : Monitor) : Advertised :=
  match m.format with
  | some f => ⟨f.encoding, f.bits, channels, f.rate, m.period⟩
  | none => ⟨.pcm, 0, 0, 0, m.period⟩

def stream? (m : Monitor) : Option MonitorStream := m.thread.bind MonitorThread.stream

/-- The device hands samples to the open stream; while playing they go on as one chunk. -/
def receive (recorded : Recorded) (m : Monitor) : Monitor :=
  match m.stream? with
  | none => m
  | some stream =>
    match stream.listener with
    | none => m
    | some listener =>
      let samples := recorded.samples stream.type
      if samples.isEmpty || !m.playing || listener.crashes then m
      else { m with trace := m.trace.deliver listener (packSamples stream.format samples) }

def reportStreamError (text : String) (m : Monitor) : Monitor :=
  match m.stream? with
  | none => m
  | some _ => m.log (.warn s!"monitor stream error: {text}")

def device (host : Host) : Device Monitor where
  listen := listen
  prepare format := refusable (prepare host format)
  start := refusable (start host none)
  stop := stop
  requestStop := requestStop
  setPlaying playing := fun m => .ok () (m.setPlaying playing)
  advertised := advertised

end Monitor

end PairedAudio.Capture
