import PairedAudio.Cipher.Aes.Inverse
import PairedAudio.Cipher.IvSource
import PairedAudio.Wire.Integer

/-! The values of a seeded supply are different from each other up to number 2¹²⁸: their
decipherments are the numbers themselves. -/

set_option autoImplicit false

namespace PairedAudio.Cipher.IvSource

open Wire (bytesOf valueCount valueOf valueOf_bytesOf)

theorem toBytes_counterBlock (n : Nat) : (counterBlock n).toBytes = bytesOf 16 n := by
  simp [counterBlock, Block.tabulate, Block.toBytes, Word.toBytes, bytesOf, Nat.div_div_eq_div_mul,
    Nat.shiftRight_eq_div_pow]

theorem counterBlock_inj {m n : Nat} (hm : m < valueCount 16) (hn : n < valueCount 16)
    (same : counterBlock m = counterBlock n) : m = n := by
  have values := congrArg (fun b : Block => valueOf b.toBytes) same
  simp only [toBytes_counterBlock, valueOf_bytesOf, Nat.mod_eq_of_lt hm, Nat.mod_eq_of_lt hn] at values
  exact values

theorem supply_seeded_inj (seed : Block) {m n : Nat} (hm : m < valueCount 16) (hn : n < valueCount 16)
    (same : (seeded seed).supply m = (seeded seed).supply n) : m = n := by
  have counters := congrArg (Aes.decipher seed) same
  simp only [seeded, Aes.decipher_encipher] at counters
  exact counterBlock_inj hm hn counters

end PairedAudio.Cipher.IvSource
