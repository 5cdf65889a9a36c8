/-! Which source a sound server's client records from. The choice is a variable of the process
environment, and the sound server's own devices are known by name. -/

set_option autoImplicit false

namespace PairedAudio.Capture.Source

/-- The sound server's name for the monitor of whichever sink is the default. -/
def defaultMonitor : String := "@DEFAULT_MONITOR@"

/-- Keeps a source that the variable names in well-formed UTF-8, and sets it to the default monitor
otherwise. Gives the source in effect and the variable afterwards. -/
def route (setting : Option (List UInt8)) : String × Option (List UInt8) :=
  match setting.bind fun bytes => String.fromUTF8? ⟨bytes.toArray⟩ with
  | some source =>
    if source.isEmpty then (defaultMonitor, some defaultMonitor.toUTF8.toList) else (source, setting)
  | none => (defaultMonitor, some defaultMonitor.toUTF8.toList)

/-- The devices that forward to the sound server, the most preferred first. -/
def serverDevices : List String := ["pulse", "pipewire"]

def preferred? (names : List String) : Option Nat :=
  serverDevices.findSome? fun wanted => names.findIdx? (· == wanted)

end PairedAudio.Capture.Source
