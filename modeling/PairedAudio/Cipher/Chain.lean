import PairedAudio.Cipher.Block

/-! Cipher block chaining over any pair of block functions: each plain block is combined with the
cipher block before it, the first one with the initialization vector. Each direction comes twice,
as a function on lists of blocks and as one that overwrites a buffer of bytes. -/

set_option autoImplicit false

namespace PairedAudio.Cipher.Chain

def encrypt (encipher : Block → Block) (iv : Block) : List Block → List Block
  | [] => []
  | plain :: rest =>
    let cipher := encipher (plain.xor iv)
    cipher :: encrypt encipher cipher rest

def decrypt (decipher : Block → Block) (iv : Block) : List Block → List Block
  | [] => []
  | cipher :: rest => (decipher cipher).xor iv :: decrypt decipher cipher rest

/-- Writes the cipher blocks over the front of a buffer; what lies behind them stays. -/
def encryptOver (encipher : Block → Block) (iv : Block) : List Block → List UInt8 → List UInt8
  | [], buffer => buffer
  | plain :: rest, buffer =>
    let cipher := encipher (plain.xor iv)
    cipher.toBytes ++ encryptOver encipher cipher rest (buffer.drop 16)

/-- Replaces the first `count` cipher blocks of a buffer by their plain blocks. -/
def decryptOver (decipher : Block → Block) (iv : Block) : Nat → List UInt8 → List UInt8
  | 0, buffer => buffer
  | count + 1, buffer =>
    match Block.ofBytes? (buffer.take 16) with
    | none => buffer
    | some cipher =>
      ((decipher cipher).xor iv).toBytes ++ decryptOver decipher cipher count (buffer.drop 16)

@[simp] theorem length_encrypt (encipher : Block → Block) (iv : Block) (plain : List Block) :
    (encrypt encipher iv plain).length = plain.length := by
  induction plain generalizing iv with
  | nil => rfl
  | cons b rest ih => simp [encrypt, ih]

@[simp] theorem length_decrypt (decipher : Block → Block) (iv : Block) (cipher : List Block) :
    (decrypt decipher iv cipher).length = cipher.length := by
  induction cipher generalizing iv with
  | nil => rfl
  | cons b rest ih => simp [decrypt, ih]

theorem decrypt_encrypt {encipher decipher : Block → Block}
    (undo : ∀ b, decipher (encipher b) = b) (iv : Block) (plain : List Block) :
    decrypt decipher iv (encrypt encipher iv plain) = plain := by
  -- Over the blocks, for every vector: the cipher block is the vector of the rest on both ways.
  induction plain generalizing iv with
  | nil => rfl
  | cons b rest ih => simp [encrypt, decrypt, undo, Block.xor_xor_self, ih]

theorem encrypt_decrypt {encipher decipher : Block → Block}
    (undo : ∀ b, encipher (decipher b) = b) (iv : Block) (cipher : List Block) :
    encrypt encipher iv (decrypt decipher iv cipher) = cipher := by
  induction cipher generalizing iv with
  | nil => rfl
  | cons b rest ih => simp [encrypt, decrypt, undo, Block.xor_xor_self, ih]

theorem encryptOver_eq (encipher : Block → Block) (iv : Block) (plain : List Block)
    (buffer : List UInt8) :
    encryptOver encipher iv plain buffer =
      Block.join (encrypt encipher iv plain) ++ buffer.drop (16 * plain.length) := by
  induction plain generalizing iv buffer with
  | nil => simp [encryptOver, encrypt, Block.join]
  | cons b rest ih =>
    have behind : 16 + 16 * rest.length = 16 * (rest.length + 1) := by omega
    simp [encryptOver, encrypt, ih, Block.join, behind]

theorem decryptOver_join (decipher : Block → Block) (iv : Block) (cipher : List Block)
    (behind : List UInt8) :
    decryptOver decipher iv cipher.length (Block.join cipher ++ behind) =
      Block.join (decrypt decipher iv cipher) ++ behind := by
  induction cipher generalizing iv with
  | nil => simp [decryptOver, decrypt, Block.join]
  | cons b rest ih =>
    have front : Block.ofBytes? ((Block.join (b :: rest) ++ behind).take 16) = some b := by
      have cut : (Block.join (b :: rest) ++ behind).take 16 = b.toBytes := by
        rw [Block.join, List.flatMap_cons, List.append_assoc]
        exact List.take_left' b.length_toBytes
      rw [cut, Block.ofBytes?_toBytes]
    have tail : (Block.join (b :: rest) ++ behind).drop 16 = Block.join rest ++ behind := by
      rw [Block.join, List.flatMap_cons, List.append_assoc]
      exact List.drop_left' b.length_toBytes
    rw [List.length_cons, decryptOver, front]
    simp only
    rw [tail, ih]
    simp [decrypt, Block.join]

end PairedAudio.Cipher.Chain
