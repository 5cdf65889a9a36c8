import PairedAudio.Proofs.Refusal
import Mathlib.Algebra.Group.Int.Defs
import Mathlib.Algebra.Group.Nat.Defs
import Mathlib.Data.List.Basic

/-! Records and their bytes.

Any bytes of the length of a record are the record's that is read from them, and of no other, so records
and runs of that length are the same thing in two forms. Commands are four of the records of one
number; any other number is refused by its value.
-/

set_option autoImplicit false

namespace PairedAudio.Wire

/-- The integer in the four bytes from a place on: the least significant comes first, and it is in two's
complement. -/
def littleEndian (bytes : List UInt8) (place : Nat) : Int :=
  let byte (k : Nat) : Nat := (bytes.getD (place + k) 0).toNat
  let unsigned : Nat := byte 0 + 2 ^ 8 * byte 1 + 2 ^ 16 * byte 2 + 2 ^ 24 * byte 3
  if unsigned < 2 ^ 31 then unsigned else unsigned - 2 ^ 32

section Fields

variable {bytes : List UInt8}

theorem signedBytes_signedValue (bytes : List UInt8) :
    signedBytes bytes.length (signedValue bytes) = bytes := by
  have below : valueOf bytes % valueCount bytes.length = valueOf bytes :=
    Nat.mod_eq_of_lt (valueOf_lt bytes)
  rw [signedBytes, signedValue, Int.bmod_emod, ← Int.natCast_emod, below, Int.toNat_natCast,
    bytesOf_valueOf]

theorem signedValue_eq (length : bytes.length = 4) : signedValue bytes = littleEndian bytes 0 := by
  match bytes, length with
  | [b0, b1, b2, b3], _ =>
    have := b0.toNat_lt
    have := b1.toNat_lt
    have := b2.toNat_lt
    have := b3.toNat_lt
    simp [signedValue, littleEndian, valueOf, valueCount, Int.bmod]
    split <;> split <;> omega

theorem littleEndian_slice (bytes : List UInt8) (place : Nat) :
    littleEndian ((bytes.drop place).take 4) 0 = littleEndian bytes place := by
  have byte {k : Nat} (low : k < 4) :
      ((bytes.drop place).take 4).getD (0 + k) 0 = bytes.getD (place + k) 0 := by
    simp [List.getD_eq_getElem?_getD, List.getElem?_drop, low]
  simp only [littleEndian]
  rw [byte (by decide), byte (by decide), byte (by decide), byte (by decide)]

theorem toInt_fieldAt {place : Nat} (inside : place + 4 ≤ bytes.length) :
    (Settings.fieldAt bytes place).toInt = littleEndian bytes place := by
  have length : ((bytes.drop place).take 4).length = 4 := by simp; omega
  rw [Settings.fieldAt, toInt_ofInt_signedValue length, signedValue_eq length, littleEndian_slice]

theorem signedBytes_fieldAt {place : Nat} (inside : place + 4 ≤ bytes.length) :
    signedBytes 4 (Settings.fieldAt bytes place).toInt = (bytes.drop place).take 4 := by
  have length : ((bytes.drop place).take 4).length = 4 := by simp; omega
  have written := signedBytes_signedValue ((bytes.drop place).take 4)
  rw [length] at written
  rw [Settings.fieldAt, toInt_ofInt_signedValue length, written]

theorem flatMap_slices {n : Nat} (length : bytes.length = 4 * n) :
    (List.range n).flatMap (fun i => (bytes.drop (4 * i)).take 4) = bytes := by
  -- Over the slices: the first one is the front of the bytes.
  induction n generalizing bytes with
  | zero => exact (List.length_eq_zero_iff.mp length).symm
  | succ n ih =>
    have behind : (bytes.drop 4).length = 4 * n := by rw [List.length_drop, length]; omega
    have rest := ih behind
    have shifted (i : Nat) : bytes.drop (4 * (i + 1)) = (bytes.drop 4).drop (4 * i) := by
      rw [List.drop_drop, Nat.mul_succ, Nat.add_comm]
    rw [List.range_succ_eq_map, List.flatMap_cons, List.flatMap_map]
    simp only [Nat.succ_eq_add_one, shifted, rest]
    exact List.take_append_drop 4 bytes

end Fields

namespace Settings

variable {payload : List UInt8} {s : Settings}

theorem fields_of_decode (read : decode payload = .ok s) :
    payload.length = wireLength ∧ s.fields = (List.range 7).map fun i => fieldAt payload (4 * i) := by
  unfold decode at read
  split at read
  · cases read
    exact ⟨‹_›, rfl⟩
  · cases read

theorem encode_decode (read : decode payload = .ok s) : s.encode = payload := by
  obtain ⟨length, fields⟩ := fields_of_decode read
  rw [wireLength] at length
  have slice (i : Nat) (inside : i ∈ List.range 7) :
      signedBytes 4 (fieldAt payload (4 * i)).toInt = (payload.drop (4 * i)).take 4 := by
    have := List.mem_range.mp inside
    exact signedBytes_fieldAt (by omega)
  rw [encode, fields, List.flatMap_map, List.flatMap_congr slice]
  exact flatMap_slices length

theorem decode_ok_iff (payload : List UInt8) :
    (∃ s, decode payload = .ok s) ↔ payload.length = wireLength := by
  constructor
  · rintro ⟨s, read⟩
    exact (fields_of_decode read).1
  · intro length
    exact ⟨_, if_pos length⟩

end Settings

namespace Command

variable {payload : List UInt8} {c : Command}

theorem encode_decode (read : decode payload = .ok c) : c.encode = payload := by
  unfold decode at read
  split at read
  · rename_i length
    have code := code_of_ofCode read
    have written := signedBytes_signedValue payload
    rw [length] at written
    rw [encode, ← code, toInt_ofInt_signedValue length, written]
  · cases read

theorem decode_ok_iff (payload : List UInt8) (c : Command) :
    decode payload = .ok c ↔ payload = c.encode := by
  constructor
  · intro read
    exact (encode_decode read).symm
  · rintro rfl
    exact decode_encode c

theorem ofCode_error {code : Int32} {e : CodecError} (refused : ofCode code = .error e) :
    e = .unknownCommand code := by
  unfold ofCode at refused
  split at refused
  · cases refused
  split at refused
  · cases refused
  split at refused
  · cases refused
  split at refused
  · cases refused
  · cases refused
    rfl

theorem decode_unknown (length : payload.length = 4) (unknown : ∀ c : Command, payload ≠ c.encode) :
    ∃ code : Int32, code.toInt = littleEndian payload 0 ∧
      decode payload = .error (.unknownCommand code) := by
  refine ⟨Int32.ofInt (signedValue payload), ?_, ?_⟩
  · rw [toInt_ofInt_signedValue length, signedValue_eq length]
  · cases ended : decode payload with
    | ok c => exact absurd ((decode_ok_iff payload c).mp ended) (unknown c)
    | error e =>
      rw [decode, if_pos length] at ended
      rw [ofCode_error ended]

end Command

/-- Every record is read back from its bytes. Bytes are read as a record just if there are 28 of them, and
then they are the bytes of that record, with one field after the other in four bytes each. Bytes are
read as a command just if they are its own; any other four bytes are refused with their number. -/
theorem records_are_bytes (payload : List UInt8) :
    (∀ s : Settings, Settings.decode s.encode = .ok s) ∧
    ((∃ s, Settings.decode payload = .ok s) ↔ payload.length = 28) ∧
    (∀ s, Settings.decode payload = .ok s → s.encode = payload ∧
      [s.clientPort, s.audioFormat, s.bitsPerSample, s.channelCount, s.sampleRate, s.enginePeriod,
        s.commandPort].map Int32.toInt = (List.range 7).map fun i => littleEndian payload (4 * i)) ∧
    ((∃ c, Command.decode payload = .ok c) ↔ ∃ c : Command, payload = c.encode) ∧
    (∀ c, Command.decode payload = .ok c → c.encode = payload) ∧
    (payload.length = 4 → (∀ c : Command, payload ≠ c.encode) →
      ∃ code : Int32, code.toInt = littleEndian payload 0 ∧
        Command.decode payload = .error (.unknownCommand code)) := by
  refine ⟨Settings.decode_encode, Settings.decode_ok_iff payload, fun s read => ?_,
    exists_congr (Command.decode_ok_iff payload), fun c => Command.encode_decode,
    Command.decode_unknown⟩
  obtain ⟨length, fields⟩ := Settings.fields_of_decode read
  rw [Settings.wireLength] at length
  refine ⟨Settings.encode_decode read, ?_⟩
  have value (i : Nat) (inside : i ∈ List.range 7) :
      (Settings.fieldAt payload (4 * i)).toInt = littleEndian payload (4 * i) := by
    have := List.mem_range.mp inside
    exact toInt_fieldAt (by omega)
  calc s.fields.map Int32.toInt
      = (List.range 7).map fun i => (Settings.fieldAt payload (4 * i)).toInt := by
        rw [fields, List.map_map]
        rfl
    _ = (List.range 7).map fun i => littleEndian payload (4 * i) := List.map_congr_left value

/-- A port and six fields of -1, and a number with its top bit set. -/
theorem records_are_bytes_of_ones :
    let record : List UInt8 := [0x28, 0x23, 0, 0] ++ List.replicate 24 0xff
    (∃ s, Settings.decode record = .ok s ∧ s.encode = record ∧ s.clientPort.toInt = 9000 ∧
      s.commandPort.toInt = -1) ∧
    ∃ code : Int32, code.toInt = 7 - 2 ^ 31 ∧
      Command.decode [7, 0, 0, 0x80] = .error (.unknownCommand code) := by
  intro record
  obtain ⟨-, reads, written, -⟩ := records_are_bytes record
  obtain ⟨-, -, -, -, -, refused⟩ := records_are_bytes [7, 0, 0, 0x80]
  constructor
  · obtain ⟨s, read⟩ := reads.mpr rfl
    obtain ⟨same, values⟩ := written s read
    have numbers : (List.range 7).map (fun i => littleEndian record (4 * i)) =
      [9000, -1, -1, -1, -1, -1, -1] := by decide
    rw [numbers] at values
    simp only [List.map_cons, List.cons.injEq] at values
    exact ⟨s, read, same, values.1, values.2.2.2.2.2.2.1⟩
  · obtain ⟨code, value, unknown⟩ := refused rfl fun c => by cases c <;> decide
    exact ⟨code, value, unknown⟩

end PairedAudio.Wire
