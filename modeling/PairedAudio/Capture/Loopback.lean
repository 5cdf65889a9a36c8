import PairedAudio.Capture.Device
import PairedAudio.Capture.Loopback.Endpoint

/-! Capture of what is played on the default render endpoint. Initialising opens a trial stream;
starting opens the stream that delivers, on a thread that polls for packets. The thread moves one
step at a time, so that pausing and stopping can fall between any two of its steps. -/

set_option autoImplicit false

namespace PairedAudio.Capture

open Audio (Format)

/-- Where the capture thread stands: before its look at the running flag, with a packet waiting to
be fetched, ended, or ended by a crash. -/
inductive LoopbackProgress
  | polling
  | fetching
  | ended
  | crashed
  deriving DecidableEq, Repr

structure LoopbackThread where
  shape : StreamShape
  listener : Option Listener
  progress : LoopbackProgress := .polling
  silence : List UInt8 := []

namespace LoopbackThread

/-- The bytes of a frame. A thread whose stream is open has computed them. -/
def align (thread : LoopbackThread) : UInt16 := thread.shape.blockAlign?.getD 0

def present (packet : RenderPacket) (thread : LoopbackThread) : List UInt8 × List UInt8 :=
  if packet.isSilent then
    let silence := resized (packet.size thread.align) thread.silence
    (silence.take (packet.size thread.align), silence)
  else (packet.bytes thread.align, thread.silence)

end LoopbackThread

structure Loopback where
  endpoint : Endpoint
  format : Option Format := none
  channels : UInt16 := 0
  period : UInt32 := 0
  listener : Option Listener := none
  running : Bool := false
  playing : Bool := true
  thread : Option LoopbackThread := none
  trace : Trace SystemCall := {}

namespace Loopback

def note (c : SystemCall) (l : Loopback) : Loopback := { l with trace := l.trace.call c }

def log (line : Line) (l : Loopback) : Loopback := { l with trace := l.trace.line line }

def listen (listener : Listener) (l : Loopback) : Loopback := { l with listener := some listener }

def call (c : SystemCall) (l : Loopback) : Option String × Loopback :=
  if c.canFail then
    let (failure, due) := countCall c.name l.endpoint.due
    (failure, { l.note c with endpoint := { l.endpoint with due } })
  else (none, l.note c)

def attempt (c : SystemCall) (wrap : String → CaptureError) : EStateM CaptureError Loopback Unit :=
  fun l => match l.call c with
    | (none, l) => .ok () l
    | (some text, l) => .error (wrap text) l

def attemptIgnored (c : SystemCall) : EStateM CaptureError Loopback Unit :=
  fun l => .ok () (l.call c).2

def configurationFailed (what text : String) : CaptureError :=
  .configurationFailed s!"{what} failed: {text}"

def unknownFailure (what text : String) : CaptureError := .unknown s!"{what} failed: {text}"

def enterApartment : EStateM CaptureError Loopback Unit :=
  attempt .enterApartment (unknownFailure "CoInitializeEx")

/-- Runs a body in the apartment, which is left however the body ends. -/
def inApartment {α : Type} (body : EStateM Fault Loopback α) : EStateM Fault Loopback α := do
  refusable enterApartment
  fun l => match body l with
    | .ok value l => .ok value (l.note .leaveApartment)
    | .error fault l => .error fault (l.note .leaveApartment)

def openClient : EStateM CaptureError Loopback Unit := do
  attempt .createEnumerator fun _ => .deviceNotAvailable
  attempt .defaultEndpoint fun _ => .deviceNotAvailable
  attempt .activate (configurationFailed "Activate")

def openStream (shape : StreamShape) : EStateM Fault Loopback Unit :=
  match shape.waveFormat? with
  | none => throw .crashed
  | some wave => refusable do
    attempt (.prepare wave) fun text =>
      .invalidFormat s!"loopback rejected {shape.format.text}: {text}"
    attempt .service (configurationFailed "GetService")

def mixChannels : EStateM CaptureError Loopback UInt16 := do
  attempt .mixFormat (configurationFailed "GetMixFormat")
  let channels := (← get).endpoint.channels
  modify (note .freeMixFormat)
  return channels

def trial (format : Format) : EStateM Fault Loopback (UInt16 × Int64) :=
  inApartment do
    refusable openClient
    let channels ← refusable mixChannels
    refusable (attempt .devicePeriod (configurationFailed "GetDevicePeriod"))
    let period := (← get).endpoint.period
    openStream ⟨format, channels⟩
    return (channels, period)

def forget (l : Loopback) : Loopback := { l with format := none, channels := 0, period := 0 }

/-- A refused format changes nothing, and any later failure leaves no parameters; a crash on the period
leaves the channels. -/
def prepare (format : Format) : EStateM Fault Loopback Unit := fun l =>
  match format.validate with
  | .error e => .error (.refused e.asCapture) l
  | .ok () =>
    match trial format l.forget with
    | .error fault l => .error fault l
    | .ok (channels, period) l =>
      match periodFrames? period format.rate with
      | none => .error .crashed { l with channels }
      | some period => .ok () { l with channels, period, format := some format }

def setProgress (progress : LoopbackProgress) (l : Loopback) : Loopback :=
  { l with thread := l.thread.map fun thread => { thread with progress } }

def fail (e : CaptureError) (l : Loopback) : Loopback :=
  { l.log (.error s!"loopback capture error: {e.message}") with running := false }.setProgress .ended

def abort (e : CaptureError) (l : Loopback) : Loopback := (l.note .leaveApartment).fail e

def crash (l : Loopback) : Loopback := (l.note .leaveApartment).setProgress .crashed

def openCapture (shape : StreamShape) : EStateM Fault Loopback Unit := do
  refusable openClient
  openStream shape
  refusable do
    attemptIgnored .raisePriority
    attempt .start (unknownFailure "IAudioClient::Start")

def launch (shape : StreamShape) (l : Loopback) : Loopback :=
  match enterApartment l with
  | .error e l => l.fail e
  | .ok () l =>
    match openCapture shape l with
    | .error (.refused e) l => l.abort e
    | .error .crashed l => l.crash
    | .ok () l => l

/-- Asks for the size of the next packet: whether there is one. An idle look leaves no mark and
counts for no failure but one that comes now. -/
def lookForPacket : EStateM CaptureError Loopback Bool := fun l =>
  if l.endpoint.queue.isEmpty && (countCall SystemCall.nextPacketSize.name l.endpoint.due).1.isNone then
    .ok false l
  else match attempt .nextPacketSize (unknownFailure "GetNextPacketSize") l with
    | .ok () l => .ok (!l.endpoint.queue.isEmpty) l
    | .error e l => .error e l

def receiver? (thread : LoopbackThread) (packet : RenderPacket) (l : Loopback) : Option Listener :=
  if l.playing && 0 < packet.frames && !packet.missing then thread.listener else none

/-- Gives a fetched packet back, which takes it off the queue whatever the call answers, and looks
for the next one. -/
def release (packet : RenderPacket) : EStateM CaptureError Loopback Bool := do
  modify fun l => { l with endpoint := { l.endpoint with queue := l.endpoint.queue.tail } }
  attempt (.releaseBuffer packet.frames) (unknownFailure "ReleaseBuffer")
  lookForPacket

def proceed : EStateM.Result CaptureError Loopback Bool → Loopback
  | .ok found l => l.setProgress (if found then .fetching else .polling)
  | .error e l => l.abort e

def finish (l : Loopback) : Loopback :=
  { ((l.call .stop).2.note .leaveApartment) with running := false }.setProgress .ended

/-- One step of the capture thread: a look at the running flag and for packets, or one packet
fetched, delivered and given back. The flag is not looked at while packets are waiting. -/
def step (l : Loopback) : Loopback :=
  match l.thread with
  | none => l
  | some thread =>
    match thread.progress with
    | .ended | .crashed => l
    | .polling => if l.running then proceed (lookForPacket l) else l.finish
    | .fetching =>
      match l.endpoint.queue with
      | [] => l.setProgress .polling
      | packet :: _ =>
        match attempt .getBuffer (unknownFailure "GetBuffer") l with
        | .error e l => l.abort e
        | .ok () l =>
          match l.receiver? thread packet with
          | none => proceed (release packet l)
          | some listener =>
            if listener.crashes then l.crash
            else
              let (chunk, silence) := thread.present packet
              proceed (release packet { l with
                thread := some { thread with silence }
                trace := l.trace.deliver listener chunk })

def steps : Nat → Loopback → Loopback
  | 0, l => l
  | n + 1, l => steps n l.step

/-- As many steps as there can be before the thread only polls an empty queue or has ended. -/
def settle (l : Loopback) : Loopback := steps (l.endpoint.queue.length + 2) l

def join (l : Loopback) : Loopback :=
  match l.thread with
  | some thread =>
    let l := { l with thread := none }
    if thread.progress = .crashed then l.log (.error "loopback capture thread panicked") else l
  | none => l

def stop (l : Loopback) : Loopback := { l with running := false }.settle.join

def requestStop (l : Loopback) : Loopback := { l with running := false }

def setPlaying (playing : Bool) (l : Loopback) : Loopback := { l with playing }

def spawnRefused (e : OsError) : CaptureError :=
  .unknown s!"failed to spawn loopback thread: {e.message}"

/-- Starts the capture thread without waiting for its stream. A thread that cannot be spawned
leaves the capture counted as running. -/
def start (spawn : Option OsError) : EStateM CaptureError Loopback Unit := fun l =>
  match l.format with
  | none => .error (.configurationFailed "device not initialised") l
  | some format =>
    if l.running then .error (.configurationFailed "loopback capture already running") l
    else
      let l := { l.settle.join with running := true, playing := true }
      match spawn with
      | some e => .error (spawnRefused e) l
      | none =>
        let shape : StreamShape := ⟨format, l.channels⟩
        .ok () ({ l with thread := some { shape, listener := l.listener } }.launch shape)

def advertised (l : Loopback) : Advertised :=
  match l.format with
  | some f => ⟨f.encoding, f.bits, l.channels, f.rate, l.period⟩
  | none => ⟨.pcm, 0, l.channels, 0, l.period⟩

def arrive (packets : List RenderPacket) (l : Loopback) : Loopback :=
  match l.thread with
  | some { progress := .polling, .. } | some { progress := .fetching, .. } =>
    { l with endpoint := { l.endpoint with queue := l.endpoint.queue ++ packets } }
  | _ => l

def device : Device Loopback where
  listen := listen
  prepare := prepare
  start := refusable (start none)
  stop := stop
  requestStop := requestStop
  setPlaying playing := fun l => .ok () (l.setPlaying playing)
  advertised := advertised

end Loopback

end PairedAudio.Capture
