import PairedAudio.Capture.Device

/-! A backend that does what a script says and keeps the calls that it got. -/

set_option autoImplicit false

namespace PairedAudio.Capture

open Audio (Format)

structure Script where
  advertised : Advertised := ⟨.pcm, 16, 2, 48000, 480⟩
  refusePrepare : Option CaptureError := none
  refuseStart : Option CaptureError := none
  crashPrepare : Bool := false
  crashSetPlaying : Bool := false

inductive DeviceCall
  | prepare (format : Format)
  | start
  | stop
  | requestStop
  | setPlaying (playing : Bool)
  deriving DecidableEq, Repr

structure Scripted where
  script : Script
  calls : List DeviceCall := []

namespace Scripted

def record (call : DeviceCall) (s : Scripted) : Scripted := { s with calls := s.calls ++ [call] }

def outcome (crash : Bool) (refusal : Option CaptureError) : EStateM Fault Scripted Unit := fun s =>
  if crash then .error .crashed s
  else match refusal with
    | some e => .error (.refused e) s
    | none => .ok () s

def device : Device Scripted where
  listen _ s := s
  prepare format := fun s =>
    outcome s.script.crashPrepare s.script.refusePrepare (s.record (.prepare format))
  start := fun s => outcome false s.script.refuseStart (s.record .start)
  stop := record .stop
  requestStop := record .requestStop
  setPlaying playing := fun s => outcome s.script.crashSetPlaying none (s.record (.setPlaying playing))
  advertised s := s.script.advertised

end Scripted

end PairedAudio.Capture
