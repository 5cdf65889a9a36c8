import PairedAudio.Audio.Format
import PairedAudio.Text.Quoted

/-! The configuration of a server: the pairing code, the control port and the audio format. -/

set_option autoImplicit false

namespace PairedAudio

open Audio (Format FormatError)
open Text (decimal quote zeroPadded)

structure Config where
  pairCode : String
  port : UInt16
  format : Format
  deriving DecidableEq, Repr

inductive ConfigField
  | pairCode
  | port
  | format
  deriving DecidableEq, Repr

def ConfigField.name : ConfigField → String
  | pairCode => "pair code"
  | port => "port"
  | format => "audio format"

inductive ConfigError
  | missing (field : ConfigField)
  | invalidPort (text : List Char)
  | format (error : FormatError)
  | emptyPairCode
  | longPairCode (bytes : Nat)
  deriving DecidableEq, Repr

namespace ConfigError

def message : ConfigError → String
  | missing field => s!"config file is missing the {field.name}"
  | invalidPort text => s!"invalid port {quote text}"
  | format e => e.asCapture.message
  | emptyPairCode => "pair code must not be empty"
  | longPairCode bytes => s!"pair code is {decimal bytes} bytes, at most 16 allowed"

def asStream (e : ConfigError) : StreamError := .configuration e.message

end ConfigError

namespace Config

def defaultPort : UInt16 := 5540

def pairCodeOfNumber (n : Nat) : String := String.ofList (zeroPadded 6 (n % 1000000))

/-- The configuration of a new installation, whose pairing code comes from a random number. -/
def fresh (n : Nat) : Config := ⟨pairCodeOfNumber n, defaultPort, .standard⟩

/-- A pairing code of one to sixteen bytes and a valid format. -/
def validate (c : Config) : Except ConfigError Unit :=
  if c.pairCode.isEmpty then .error .emptyPairCode
  else if 16 < c.pairCode.utf8ByteSize then .error (.longPairCode c.pairCode.utf8ByteSize)
  else c.format.validate.mapError .format

end Config

end PairedAudio
