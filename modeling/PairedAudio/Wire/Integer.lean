/-! Integers as bytes, least significant byte first; signed ones in two's complement. -/

set_option autoImplicit false

namespace PairedAudio.Wire

def valueCount : Nat → Nat
  | 0 => 1
  | width + 1 => 256 * valueCount width

def bytesOf : Nat → Nat → List UInt8
  | 0, _ => []
  | width + 1, n => UInt8.ofNat n :: bytesOf width (n / 256)

def valueOf : List UInt8 → Nat
  | [] => 0
  | b :: rest => b.toNat + 256 * valueOf rest

/-- The `width` low bytes of an integer's two's complement. -/
def signedBytes (width : Nat) (i : Int) : List UInt8 := bytesOf width (i % valueCount width).toNat

def signedValue (bytes : List UInt8) : Int := Int.bmod (valueOf bytes) (valueCount bytes.length)

@[simp] theorem length_bytesOf (width n : Nat) : (bytesOf width n).length = width := by
  induction width generalizing n with
  | zero => rfl
  | succ width ih => simp [bytesOf, ih]

theorem valueCount_pos (width : Nat) : 0 < valueCount width := by
  induction width with
  | zero => decide
  | succ width ih => rw [valueCount]; omega

theorem valueOf_bytesOf (width n : Nat) : valueOf (bytesOf width n) = n % valueCount width := by
  induction width generalizing n with
  | zero => simp [bytesOf, valueOf, valueCount, Nat.mod_one]
  | succ width ih => rw [bytesOf, valueOf, ih, valueCount, Nat.mod_mul, UInt8.toNat_ofNat']

theorem valueOf_lt (bytes : List UInt8) : valueOf bytes < valueCount bytes.length := by
  induction bytes with
  | nil => decide
  | cons b rest ih =>
    have byte : b.toNat < 256 := b.toNat_lt
    rw [valueOf, List.length_cons, valueCount]
    omega

theorem bytesOf_valueOf (bytes : List UInt8) : bytesOf bytes.length (valueOf bytes) = bytes := by
  -- Over the bytes, the least significant first: the quotient by 256 holds the others.
  induction bytes with
  | nil => rfl
  | cons b rest ih =>
    have byte : b.toNat < 256 := b.toNat_lt
    have low : UInt8.ofNat (b.toNat + 256 * valueOf rest) = b := by
      apply UInt8.toNat_inj.mp
      rw [UInt8.toNat_ofNat']
      omega
    have high : (b.toNat + 256 * valueOf rest) / 256 = valueOf rest := by omega
    rw [List.length_cons, valueOf, bytesOf, low, high, ih]

@[simp] theorem length_signedBytes (width : Nat) (i : Int) : (signedBytes width i).length = width :=
  length_bytesOf width _

theorem signedValue_signedBytes (width : Nat) (i : Int) :
    signedValue (signedBytes width i) = Int.bmod i (valueCount width) := by
  have positive : 0 < valueCount width := valueCount_pos width
  have whole : ((i % valueCount width).toNat : Int) = i % valueCount width :=
    Int.toNat_of_nonneg (Int.emod_nonneg i (by omega))
  rw [signedValue, length_signedBytes, signedBytes, valueOf_bytesOf, Int.natCast_emod, whole,
    Int.emod_emod, Int.emod_bmod]

theorem ofInt_signedValue_signedBytes (n : Int32) :
    Int32.ofInt (signedValue (signedBytes 4 n.toInt)) = n := by
  have fits : Int.bmod n.toInt (valueCount 4) = n.toInt := n.toInt_bmod
  rw [signedValue_signedBytes, fits, Int32.ofInt_toInt]

example : signedBytes 3 (-2) = [0xfe, 0xff, 0xff] ∧ signedValue [0xfe, 0xff, 0xff] = -2 := by decide

end PairedAudio.Wire
