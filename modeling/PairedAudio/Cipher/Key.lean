import PairedAudio.Cipher.Block
import PairedAudio.Error

/-! The key that both ends derive from the pairing code: the code's bytes, and its last byte
repeated up to sixteen. -/

set_option autoImplicit false

namespace PairedAudio.Cipher

open Text (decimal)

/-- Keys do not show their bytes when described. -/
structure Key where
  block : Block
  deriving DecidableEq

namespace Key

def description (_ : Key) : String := "SymmetricKey(..)"

def ofBytes (secret : List UInt8) : Except StreamError Key :=
  match secret.getLast? with
  | none => .error (.configuration "pairing secret is empty")
  | some last =>
    if 16 < secret.length then
      .error (.configuration s!"pairing secret is {decimal secret.length} bytes, at most 16 allowed")
    else .ok ⟨Block.tabulate fun i => secret.getD i last⟩

def ofSecret (secret : String) : Except StreamError Key := ofBytes secret.toUTF8.toList

end Key

end PairedAudio.Cipher
