/-! Sixteen-byte blocks as four words of four bytes, the exclusive or on them, and how a run of
bytes is cut into blocks. -/

set_option autoImplicit false

namespace PairedAudio.Cipher

structure Word where
  b0 : UInt8
  b1 : UInt8
  b2 : UInt8
  b3 : UInt8
  deriving DecidableEq, Repr, Inhabited

namespace Word

def xor (v w : Word) : Word := ⟨v.b0 ^^^ w.b0, v.b1 ^^^ w.b1, v.b2 ^^^ w.b2, v.b3 ^^^ w.b3⟩

def map (f : UInt8 → UInt8) (w : Word) : Word := ⟨f w.b0, f w.b1, f w.b2, f w.b3⟩

def toBytes (w : Word) : List UInt8 := [w.b0, w.b1, w.b2, w.b3]

theorem xor_xor_self (v w : Word) : (v.xor w).xor w = v := by
  cases v
  simp only [xor, UInt8.xor_assoc, UInt8.xor_self, UInt8.xor_zero]

end Word

structure Block where
  w0 : Word
  w1 : Word
  w2 : Word
  w3 : Word
  deriving DecidableEq, Repr, Inhabited

namespace Block

def xor (a b : Block) : Block := ⟨a.w0.xor b.w0, a.w1.xor b.w1, a.w2.xor b.w2, a.w3.xor b.w3⟩

def map (f : UInt8 → UInt8) (b : Block) : Block := ⟨b.w0.map f, b.w1.map f, b.w2.map f, b.w3.map f⟩

def mapWords (f : Word → Word) (b : Block) : Block := ⟨f b.w0, f b.w1, f b.w2, f b.w3⟩

def toBytes (b : Block) : List UInt8 := b.w0.toBytes ++ b.w1.toBytes ++ b.w2.toBytes ++ b.w3.toBytes

/-- The whole blocks at the front of a run of bytes; fewer than sixteen bytes left over are dropped. -/
def split : List UInt8 → List Block
  | a0 :: a1 :: a2 :: a3 :: b0 :: b1 :: b2 :: b3 :: c0 :: c1 :: c2 :: c3 :: d0 :: d1 :: d2 :: d3 :: rest =>
    ⟨⟨a0, a1, a2, a3⟩, ⟨b0, b1, b2, b3⟩, ⟨c0, c1, c2, c3⟩, ⟨d0, d1, d2, d3⟩⟩ :: split rest
  | _ => []

def join (blocks : List Block) : List UInt8 := blocks.flatMap toBytes

def tabulate (f : Nat → UInt8) : Block :=
  ⟨⟨f 0, f 1, f 2, f 3⟩, ⟨f 4, f 5, f 6, f 7⟩, ⟨f 8, f 9, f 10, f 11⟩, ⟨f 12, f 13, f 14, f 15⟩⟩

def ofBytes? (bytes : List UInt8) : Option Block :=
  if bytes.length = 16 then (split bytes).head? else none

@[simp] theorem length_toBytes (b : Block) : b.toBytes.length = 16 := rfl

@[simp] theorem length_join (blocks : List Block) : (join blocks).length = 16 * blocks.length := by
  induction blocks with
  | nil => rfl
  | cons b blocks ih =>
    have tail : (blocks.flatMap toBytes).length = 16 * blocks.length := ih
    simp only [join, List.flatMap_cons, List.length_append, length_toBytes, tail, List.length_cons]
    omega

@[simp] theorem split_join (blocks : List Block) : split (join blocks) = blocks := by
  induction blocks with
  | nil => rfl
  | cons b blocks ih =>
    have tail : split (blocks.flatMap toBytes) = blocks := ih
    simp [join, toBytes, Word.toBytes, split, tail]

theorem join_split (bytes : List UInt8) (aligned : bytes.length % 16 = 0) : join (split bytes) = bytes := by
  fun_induction split bytes with
  | case1 a0 a1 a2 a3 b0 b1 b2 b3 c0 c1 c2 c3 d0 d1 d2 d3 rest ih =>
    have tail : (split rest).flatMap toBytes = rest := ih (by simp only [List.length_cons] at aligned; omega)
    simp [join, toBytes, Word.toBytes, tail]
  | case2 bytes short =>
    match bytes, short, aligned with
    | [], _, _ => rfl
    | [_], _, h | [_, _], _, h | [_, _, _], _, h | [_, _, _, _], _, h | [_, _, _, _, _], _, h
    | [_, _, _, _, _, _], _, h | [_, _, _, _, _, _, _], _, h | [_, _, _, _, _, _, _, _], _, h
    | [_, _, _, _, _, _, _, _, _], _, h | [_, _, _, _, _, _, _, _, _, _], _, h
    | [_, _, _, _, _, _, _, _, _, _, _], _, h | [_, _, _, _, _, _, _, _, _, _, _, _], _, h
    | [_, _, _, _, _, _, _, _, _, _, _, _, _], _, h | [_, _, _, _, _, _, _, _, _, _, _, _, _, _], _, h
    | [_, _, _, _, _, _, _, _, _, _, _, _, _, _, _], _, h => simp at h
    | a0 :: a1 :: a2 :: a3 :: b0 :: b1 :: b2 :: b3 :: c0 :: c1 :: c2 :: c3 :: d0 :: d1 :: d2 :: d3 :: rest, s, _ =>
      exact absurd rfl (s a0 a1 a2 a3 b0 b1 b2 b3 c0 c1 c2 c3 d0 d1 d2 d3 rest)

theorem xor_xor_self (a b : Block) : (a.xor b).xor b = a := by
  cases a
  simp [xor, Word.xor_xor_self]

theorem ofBytes?_toBytes (b : Block) : ofBytes? b.toBytes = some b := rfl

theorem toBytes_inj {a b : Block} (same : a.toBytes = b.toBytes) : a = b := by
  have found := congrArg ofBytes? same
  rw [ofBytes?_toBytes, ofBytes?_toBytes] at found
  exact Option.some.inj found

end Block

end PairedAudio.Cipher
