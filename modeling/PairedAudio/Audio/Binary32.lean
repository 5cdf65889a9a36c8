/-! Numbers in the binary32 format of IEEE 754, as their bits. A finite number is a whole multiple
of the least positive one, so its size is a natural number, and every operation here is an exact
computation on sizes followed by one rounding to nearest with ties to even. -/

set_option autoImplicit false

namespace PairedAudio.Audio

/-- The quotient of two numbers rounded to nearest, a tie to the even neighbour. -/
def roundHalfEven (n d : Nat) : Nat :=
  let q := n / d
  let r := n % d
  if 2 * r < d ∨ (2 * r = d ∧ q % 2 = 0) then q else q + 1

/-- A quotient rounded to a whole number with at most `precision` significant bits. -/
def roundRatio (precision n d : Nat) : Nat :=
  let unit := 1 <<< ((n / d).log2 + 1 - precision)
  roundHalfEven n (d * unit) * unit

structure Binary32 where
  bits : UInt32
  deriving DecidableEq, Repr

namespace Binary32

def isNegative (x : Binary32) : Bool := 0x80000000 ≤ x.bits

def exponent (x : Binary32) : Nat := x.bits.toNat / 0x800000 % 256

def fraction (x : Binary32) : Nat := x.bits.toNat % 0x800000

def isNaN (x : Binary32) : Bool := x.exponent == 255 && x.fraction != 0

def isInfinite (x : Binary32) : Bool := x.exponent == 255 && x.fraction == 0

/-- How many times the least positive number, `2⁻¹⁴⁹`, the absolute value is. -/
def size (x : Binary32) : Nat :=
  if x.exponent = 0 then x.fraction else (0x800000 + x.fraction) <<< (x.exponent - 1)

def one : Nat := 1 <<< 149

/-- The number of a given sign and size; the size has at most 24 significant bits, and from
`2¹²⁸` on the number is infinite. -/
def ofSize (negative : Bool) (size : Nat) : Binary32 :=
  let shift := size.log2 - 23
  let unsigned := min (shift * 0x800000 + size >>> shift) 0x7f800000
  ⟨UInt32.ofNat (if negative then unsigned + 0x80000000 else unsigned)⟩

def nearest (negative : Bool) (n d : Nat) : Binary32 := ofSize negative (roundRatio 24 n d)

def invalid : Binary32 := ⟨0xffc00000⟩

def infinity (negative : Bool) : Binary32 := ⟨if negative then 0xff800000 else 0x7f800000⟩

def quiet (x : Binary32) : Binary32 := ⟨x.bits ||| 0x400000⟩

/-- An operand that is no number is the result, the first one if both are none. -/
def onNumbers (x y : Binary32) (operation : Binary32) : Binary32 :=
  if x.isNaN then x.quiet else if y.isNaN then y.quiet else operation

def ofRatio (n : Int) (d : Nat) : Binary32 := nearest (n < 0) (n.natAbs * one) d

def mul (x y : Binary32) : Binary32 :=
  let negative := x.isNegative != y.isNegative
  onNumbers x y <|
    if x.isInfinite || y.isInfinite then
      if x.size = 0 ∨ y.size = 0 then invalid else infinity negative
    else nearest negative (x.size * y.size) one

def div (x y : Binary32) : Binary32 :=
  let negative := x.isNegative != y.isNegative
  onNumbers x y <|
    if x.isInfinite then if y.isInfinite then invalid else infinity negative
    else if y.isInfinite then ofSize negative 0
    else if y.size = 0 then if x.size = 0 then invalid else infinity negative
    else nearest negative (x.size * one) y.size

def signedSize (x : Binary32) : Int := if x.isNegative then -x.size else x.size

def add (x y : Binary32) : Binary32 :=
  onNumbers x y <|
    if x.isInfinite then
      if y.isInfinite && x.isNegative != y.isNegative then invalid else x
    else if y.isInfinite then y
    else
      let sum := x.signedSize + y.signedSize
      if sum = 0 then ofSize (x.isNegative && y.isNegative) 0 else nearest (sum < 0) sum.natAbs 1

/-- The remainder of the division that truncates; it has the sign of `x`, and is exact. -/
def rem (x y : Binary32) : Binary32 :=
  onNumbers x y <|
    if x.isInfinite || y.size = 0 then invalid else ofSize x.isNegative (x.size % y.size)

/-- The nearest number between -1 and 1; what is no number stays what it is. -/
def clampUnit (x : Binary32) : Binary32 :=
  if x.isNaN then x
  else if one < x.size then ⟨if x.isNegative then 0xbf800000 else 0x3f800000⟩
  else x

/-- The product with `top`, rounded to `precision` significant bits and cut off to a whole number;
zero for what is no number. -/
def scale (precision top : Nat) (x : Binary32) : Int :=
  if x.isNaN then 0
  else
    let whole := roundRatio precision (x.size * top) 1 / one
    if x.isNegative then -whole else whole

example : mul ⟨0x3f000000⟩ ⟨0x40400000⟩ = ⟨0x3fc00000⟩ ∧ add ⟨0x3f800000⟩ ⟨0xbf800000⟩ = ⟨0⟩ ∧
    div ⟨0x3f800000⟩ ⟨0x40400000⟩ = ⟨0x3eaaaaab⟩ ∧ rem ⟨0x40e00000⟩ ⟨0x40400000⟩ = ⟨0x3f800000⟩ := by
  decide +kernel

end Binary32

end PairedAudio.Audio
