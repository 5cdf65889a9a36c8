/-! Log lines: a level and a text. -/

set_option autoImplicit false

namespace PairedAudio

inductive Level
  | info
  | warn
  | error
  deriving DecidableEq, Repr

def Level.name : Level → String
  | info => "INFO"
  | warn => "WARN"
  | error => "ERROR"

structure Line where
  level : Level
  text : String
  deriving DecidableEq, Repr

namespace Line

def info (text : String) : Line := ⟨.info, text⟩
def warn (text : String) : Line := ⟨.warn, text⟩
def error (text : String) : Line := ⟨.error, text⟩

def render (line : Line) : String := s!"{line.level.name} {line.text}"

end Line

end PairedAudio
