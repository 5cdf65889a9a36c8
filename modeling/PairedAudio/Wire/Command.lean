import PairedAudio.Error
import PairedAudio.Wire.Integer

/-! Commands of a paired client: four, each a signed 32-bit code, and each its own
acknowledgement. -/

set_option autoImplicit false

namespace PairedAudio.Wire

inductive Command
  | ping
  | play
  | pause
  | stop
  deriving DecidableEq, Repr

namespace Command

def code : Command → Int32
  | ping => 0
  | play => 1
  | pause => 2
  | stop => 3

def ofCode (code : Int32) : Except CodecError Command :=
  if code = 0 then .ok ping
  else if code = 1 then .ok play
  else if code = 2 then .ok pause
  else if code = 3 then .ok stop
  else .error (.unknownCommand code)

def encode (c : Command) : List UInt8 := signedBytes 4 c.code.toInt

def decode (payload : List UInt8) : Except CodecError Command :=
  if payload.length = 4 then ofCode (Int32.ofInt (signedValue payload))
  else .error (.malformed (.commandLength payload.length))

theorem ofCode_code (c : Command) : ofCode c.code = .ok c := by cases c <;> rfl

theorem decode_encode (c : Command) : decode c.encode = .ok c := by
  have length : c.encode.length = 4 := length_signedBytes 4 _
  rw [decode, if_pos length, encode, ofInt_signedValue_signedBytes, ofCode_code]

end Command

end PairedAudio.Wire
