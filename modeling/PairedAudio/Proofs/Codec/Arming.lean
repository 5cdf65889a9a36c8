import Mathlib.Data.List.Induction
import PairedAudio.Proofs.Codec.Buffers

/-! What a codec answers after any calls, told from the calls alone.

A codec keeps two things from one call to the next: the key that was set last, and a vector that was
armed and not yet used. So an operation answers as on a codec made for it alone, with that key and
that vector, or finds no vector armed; in both cases it leaves none behind, whatever it answers.
-/

set_option autoImplicit false

namespace PairedAudio.Cipher

inductive Operation
  | encrypt (plain : List UInt8)
  | encryptInto (plain buffer : List UInt8)
  | decrypt (cipher : List UInt8)
  | decryptInPlace (buffer : List UInt8)

inductive Yield
  | bytes (value : List UInt8)
  | written (count : Nat)

/-- All that the caller of an operation sees; without a buffer of the caller's there is none to see. -/
structure Answer where
  outcome : Except CodecError Yield
  buffer : Option (List UInt8)

def Operation.buffer? : Operation → Option (List UInt8)
  | .encrypt _ | .decrypt _ => none
  | .encryptInto _ buffer | .decryptInPlace buffer => some buffer

namespace Codec

inductive Call
  | setKey (bytes : List UInt8)
  | setIv (bytes : List UInt8)
  | operate (operation : Operation)

def perform (codec : Codec) : Operation → Answer × Codec
  | .encrypt plain =>
    let result := Codec.encrypt plain codec
    (⟨(outcome result).map .bytes, none⟩, left result)
  | .encryptInto plain buffer =>
    let result := codec.encryptInto plain buffer
    (⟨result.outcome.map .written, some result.buffer⟩, result.codec)
  | .decrypt cipher =>
    let result := Codec.decrypt cipher codec
    (⟨(outcome result).map .bytes, none⟩, left result)
  | .decryptInPlace buffer =>
    let result := codec.decryptInPlace buffer
    (⟨result.outcome.map .bytes, some result.buffer⟩, result.codec)

def step (codec : Codec) : Call → Codec
  | .setKey bytes => left (setKey bytes codec)
  | .setIv bytes => left (setIv bytes codec)
  | .operate operation => (codec.perform operation).2

def after (codec : Codec) (history : List Call) : Codec := history.foldl step codec

namespace Call

/-- The key that a call sets; one of another length than sixteen bytes is refused. -/
def key? : Call → Option Block
  | .setKey bytes => Block.ofBytes? bytes
  | .setIv _ | .operate _ => none

def iv? : Call → Option Block
  | .setIv bytes => Block.ofBytes? bytes
  | .setKey _ | .operate _ => none

def isOperation : Call → Bool
  | .operate _ => true
  | .setKey _ | .setIv _ => false

end Call

def lastKey (start : Block) (history : List Call) : Block :=
  (history.reverse.findSome? Call.key?).getD start

/-- The vector that was armed last since the last operation. -/
def pending (history : List Call) : Option Block :=
  (history.reverse.takeWhile fun call => !call.isOperation).findSome? Call.iv?

theorem lastKey_snoc (start : Block) (history : List Call) (call : Call) :
    lastKey start (history ++ [call]) = call.key?.getD (lastKey start history) := by
  simp only [lastKey, List.reverse_append, List.reverse_singleton, List.singleton_append,
    List.findSome?_cons]
  cases call.key? <;> rfl

theorem pending_snoc (history : List Call) (call : Call) :
    pending (history ++ [call]) =
      if call.isOperation then none else call.iv?.or (pending history) := by
  simp only [pending, List.reverse_append, List.reverse_singleton, List.singleton_append]
  by_cases operation : call.isOperation = true
  · rw [List.takeWhile_cons_of_neg (by simp [operation]), if_pos operation, List.findSome?_nil]
  · rw [List.takeWhile_cons_of_pos (by simp [operation]), if_neg operation, List.findSome?_cons]
    cases call.iv? <;> rfl

theorem after_snoc (codec : Codec) (history : List Call) (call : Call) :
    codec.after (history ++ [call]) = (codec.after history).step call := by
  simp only [after, List.foldl_append, List.foldl_cons, List.foldl_nil]

section Settings

variable (bytes : List UInt8) (codec : Codec)

theorem left_setKey :
    left (setKey bytes codec) = { codec with key := (Block.ofBytes? bytes).getD codec.key } := by
  unfold setKey
  cases Block.ofBytes? bytes <;> rfl

theorem left_setIv :
    left (setIv bytes codec) = { codec with iv := (Block.ofBytes? bytes).or codec.iv } := by
  unfold setIv
  cases Block.ofBytes? bytes <;> rfl

theorem ofBytes?_eq_none_iff : Block.ofBytes? bytes = none ↔ bytes.length ≠ 16 := by
  constructor
  · intro refused length
    obtain ⟨block, found, -⟩ := Block.ofBytes?_of_length length
    rw [found] at refused
    cases refused
  · intro length
    rw [Block.ofBytes?, if_neg length]

theorem setKey_refused_iff :
    setKey bytes codec = .error (.lengthMismatch .key bytes.length) codec ↔ bytes.length ≠ 16 := by
  rw [← ofBytes?_eq_none_iff, setKey]
  cases Block.ofBytes? bytes <;> simp

theorem setIv_refused_iff :
    setIv bytes codec = .error (.lengthMismatch .iv bytes.length) codec ↔ bytes.length ≠ 16 := by
  rw [← ofBytes?_eq_none_iff, setIv]
  cases Block.ofBytes? bytes <;> simp

end Settings

section Operations

variable (key iv : Block) (operation : Operation)

theorem perform_unarmed :
    (⟨key, none⟩ : Codec).perform operation =
      (⟨.error .missingIv, operation.buffer?⟩, ⟨key, none⟩) := by
  cases operation <;> rfl

theorem map_eq_error_iff {α β : Type} {f : α → β} {x : Except CodecError α} {e : CodecError} :
    x.map f = .error e ↔ x = .error e := by
  cases x <;> simp [Except.map]

theorem decrypt_armed (cipher : List UInt8) :
    outcome (Codec.decrypt cipher ⟨key, some iv⟩) ≠ .error .missingIv ∧
      left (Codec.decrypt cipher ⟨key, some iv⟩) = ⟨key, none⟩ := by
  unfold Codec.decrypt
  by_cases aligned : isAligned cipher = true
  · simp only [if_pos aligned]
    cases Padding.count? (paddedText key iv cipher) with
    | error last => simp [outcome, left, disarmed]
    | ok count => simp [outcome, left, disarmed]
  · simp [aligned, outcome, left, disarmed]

/-- No exit of an operation keeps the vector: it is taken before lengths and padding are looked at. -/
theorem perform_armed :
    ((⟨key, some iv⟩ : Codec).perform operation).1.outcome ≠ .error .missingIv ∧
      ((⟨key, some iv⟩ : Codec).perform operation).2 = ⟨key, none⟩ := by
  cases operation with
  | encrypt plain => simp [perform, Codec.encrypt, outcome, left, disarmed, Except.map]
  | encryptInto plain buffer =>
    simp only [perform, encryptInto_eq]
    split
    · simp [Except.map]
    · simp [Except.map]
  | decrypt cipher =>
    simp only [perform, ne_eq, map_eq_error_iff]
    exact decrypt_armed key iv cipher
  | decryptInPlace buffer =>
    simp only [perform, decryptInPlace_eq_decrypt, ne_eq, map_eq_error_iff]
    exact decrypt_armed key iv buffer

end Operations

theorem perform_left (codec : Codec) (operation : Operation) :
    (codec.perform operation).2 = codec.disarmed := by
  obtain ⟨key, armed⟩ := codec
  cases armed with
  | none => rw [perform_unarmed]; rfl
  | some iv => exact (perform_armed key iv operation).2

theorem perform_missingIv_iff (codec : Codec) (operation : Operation) :
    (codec.perform operation).1.outcome = .error .missingIv ↔ codec.iv = none := by
  obtain ⟨key, armed⟩ := codec
  cases armed with
  | none => rw [perform_unarmed]; simp
  | some iv => simp [(perform_armed key iv operation).1]

theorem after_eq (key : Key) (history : List Call) :
    (ofKey key).after history = ⟨lastKey key.block history, pending history⟩ := by
  -- From the back: the last call decides, and what it does not decide is as before it.
  induction history using List.reverseRecOn with
  | nil => rfl
  | append_singleton history call ih =>
    rw [after_snoc, ih, lastKey_snoc, pending_snoc]
    cases call with
    | setKey bytes => exact left_setKey bytes _
    | setIv bytes => exact left_setIv bytes _
    | operate operation => exact perform_left _ operation

/-- After any calls, an operation finds no vector exactly if none was armed since the last operation,
and otherwise answers as a new codec does with the key that was set last and with that vector. Every
operation leaves the codec disarmed, whatever it answers. A key or a vector of the wrong length is
refused, and leaves the codec as it was. -/
theorem arms_one_operation (key : Key) (history : List Call) :
    let codec := (ofKey key).after history
    let fresh := fun iv : Block =>
      (ofKey ⟨lastKey key.block history⟩).after [.setIv iv.toBytes]
    (∀ operation,
      ((codec.perform operation).1.outcome = .error .missingIv ↔ pending history = none) ∧
      ((codec.perform operation).1 = match pending history with
        | none => ⟨.error .missingIv, operation.buffer?⟩
        | some iv => ((fresh iv).perform operation).1) ∧
      (codec.perform operation).2 = codec.disarmed) ∧
    ∀ bytes,
      (setKey bytes codec = .error (.lengthMismatch .key bytes.length) codec ↔ bytes.length ≠ 16) ∧
      (setIv bytes codec = .error (.lengthMismatch .iv bytes.length) codec ↔ bytes.length ≠ 16) := by
  intro codec fresh
  have state : codec = ⟨lastKey key.block history, pending history⟩ := after_eq key history
  have made (iv : Block) : fresh iv = ⟨lastKey key.block history, some iv⟩ := after_eq ..
  refine ⟨fun operation => ⟨?_, ?_, perform_left codec operation⟩, fun bytes =>
    ⟨setKey_refused_iff bytes codec, setIv_refused_iff bytes codec⟩⟩
  · rw [perform_missingIv_iff, state]
  · rw [state]
    cases pending history with
    | none => rw [perform_unarmed]
    | some iv => simp only [made]

/-- A vector outlives a new key and a vector of the wrong length, but not a text that cannot be opened. -/
example :
    pending [.setIv (List.replicate 16 7), .setKey (List.replicate 16 1), .setIv [2]] =
        some (.tabulate fun _ => 7) ∧
      pending [.setIv (List.replicate 16 7), .operate (.decrypt [])] = none := by
  decide

end Codec

end PairedAudio.Cipher
