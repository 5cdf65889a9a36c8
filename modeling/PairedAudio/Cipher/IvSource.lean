import PairedAudio.Cipher.Aes

/-! Where initialization vectors come from: an endless supply of values, each of which is handed
out once. -/

set_option autoImplicit false

namespace PairedAudio.Cipher

structure IvSource where
  supply : Nat → Block
  drawn : Nat := 0

namespace IvSource

def draw (source : IvSource) : Block × IvSource :=
  (source.supply source.drawn, { source with drawn := source.drawn + 1 })

def drawMany : Nat → IvSource → List Block × IvSource
  | 0, source => ([], source)
  | n + 1, source =>
    let (iv, source) := source.draw
    let (rest, source) := drawMany n source
    (iv :: rest, source)

def counterBlock (n : Nat) : Block := Block.tabulate fun i => UInt8.ofNat (n >>> (8 * i))

/-- The numbers from zero on, enciphered under a secret seed: unpredictable without the seed, and
different from each other because enciphering can be undone. -/
def seeded (seed : Block) : IvSource := ⟨fun n => Aes.encipher seed (counterBlock n), 0⟩

end IvSource

end PairedAudio.Cipher
