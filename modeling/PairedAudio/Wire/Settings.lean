import PairedAudio.Error
import PairedAudio.Wire.Integer

/-! The record of a handshake: seven signed 32-bit fields in a fixed order. A client sets only the
port on which it wants the audio; the server answers with the format, the shape of the stream and
its command port. -/

set_option autoImplicit false

namespace PairedAudio.Wire

structure Settings where
  clientPort : Int32 := 0
  audioFormat : Int32 := 0
  bitsPerSample : Int32 := 0
  channelCount : Int32 := 0
  sampleRate : Int32 := 0
  enginePeriod : Int32 := 0
  commandPort : Int32 := 0
  deriving DecidableEq, Repr

namespace Settings

def wireLength : Nat := 28

def fields (s : Settings) : List Int32 :=
  [s.clientPort, s.audioFormat, s.bitsPerSample, s.channelCount, s.sampleRate, s.enginePeriod,
    s.commandPort]

def request (port : UInt16) : Settings := { clientPort := Int32.ofNat port.toNat }

def encode (s : Settings) : List UInt8 := s.fields.flatMap fun field => signedBytes 4 field.toInt

def fieldAt (payload : List UInt8) (offset : Nat) : Int32 :=
  Int32.ofInt (signedValue ((payload.drop offset).take 4))

def decode (payload : List UInt8) : Except CodecError Settings :=
  if payload.length = wireLength then
    let field := fieldAt payload
    .ok ⟨field 0, field 4, field 8, field 12, field 16, field 20, field 24⟩
  else .error (.malformed (.settingsLength payload.length))

theorem length_flatMap_signedBytes (values : List Int32) :
    (values.flatMap fun value => signedBytes 4 value.toInt).length = 4 * values.length := by
  induction values with
  | nil => rfl
  | cons value rest ih =>
    rw [List.flatMap_cons, List.length_append, length_signedBytes, ih, List.length_cons]
    omega

@[simp] theorem length_encode (s : Settings) : s.encode.length = wireLength :=
  length_flatMap_signedBytes s.fields

/-- Field number `front.length` stands four times that many bytes into the record. -/
theorem fieldAt_encode (s : Settings) (front rest : List Int32) (value : Int32)
    (shape : s.fields = front ++ value :: rest) : fieldAt s.encode (4 * front.length) = value := by
  let bytes (values : List Int32) := values.flatMap fun value => signedBytes 4 value.toInt
  have record : s.encode = bytes front ++ (signedBytes 4 value.toInt ++ bytes rest) := by
    simp [encode, shape, bytes]
  have start : s.encode.drop (4 * front.length) = signedBytes 4 value.toInt ++ bytes rest := by
    rw [record]
    exact List.drop_left' (length_flatMap_signedBytes front)
  have cut : (signedBytes 4 value.toInt ++ bytes rest).take 4 = signedBytes 4 value.toInt :=
    List.take_left' (length_signedBytes 4 _)
  rw [fieldAt, start, cut, ofInt_signedValue_signedBytes]

theorem decode_encode (s : Settings) : decode s.encode = .ok s := by
  have f0 := fieldAt_encode s [] _ _ rfl
  have f1 := fieldAt_encode s [_] _ _ rfl
  have f2 := fieldAt_encode s [_, _] _ _ rfl
  have f3 := fieldAt_encode s [_, _, _] _ _ rfl
  have f4 := fieldAt_encode s [_, _, _, _] _ _ rfl
  have f5 := fieldAt_encode s [_, _, _, _, _] _ _ rfl
  have f6 := fieldAt_encode s [_, _, _, _, _, _] _ _ rfl
  simp only [List.length_cons, List.length_nil] at f0 f1 f2 f3 f4 f5 f6
  rw [decode, if_pos s.length_encode]
  simp only
  rw [f0, f1, f2, f3, f4, f5, f6]

/-- The port for the audio; ports are between 1 and 65535. -/
def audioPort (s : Settings) : Except CodecError UInt16 :=
  let port := s.clientPort.toInt
  if 0 < port ∧ port < 65536 then .ok (UInt16.ofNat port.toNat)
  else .error (.malformed (.clientPort port))

end Settings

end PairedAudio.Wire
