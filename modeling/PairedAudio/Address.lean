import PairedAudio.Text.Numeral

/-! Network addresses: IPv4 addresses with their order and text, and which of a host's addresses a
client can reach. -/

set_option autoImplicit false

namespace PairedAudio

open Text (decimal digitsValue)

structure Ipv4 where
  a : UInt8
  b : UInt8
  c : UInt8
  d : UInt8
  deriving DecidableEq, Repr

namespace Ipv4

def value (ip : Ipv4) : Nat :=
  ((ip.a.toNat * 256 + ip.b.toNat) * 256 + ip.c.toNat) * 256 + ip.d.toNat

def text (ip : Ipv4) : String :=
  ".".intercalate ([ip.a, ip.b, ip.c, ip.d].map fun part => decimal part.toNat)

def isLoopback (ip : Ipv4) : Bool := ip.a == 127

def isUnspecified (ip : Ipv4) : Bool := ip == ⟨0, 0, 0, 0⟩

/-- A part of a dotted address: one to three digits, no leading zero, below 256. -/
def part? (text : List Char) : Option UInt8 :=
  if text.isEmpty || 3 < text.length || !text.all Char.isDigit ||
      (text.head? == some '0' && 1 < text.length) || 255 < digitsValue text then none
  else some (UInt8.ofNat (digitsValue text))

def dotted : List Char → List (List Char)
  | [] => [[]]
  | '.' :: rest => [] :: dotted rest
  | c :: rest => match dotted rest with
    | [] => [[c]]
    | first :: others => (c :: first) :: others

def parse? (text : List Char) : Option Ipv4 :=
  match (dotted text).map part? with
  | [some a, some b, some c, some d] => some ⟨a, b, c, d⟩
  | _ => none

end Ipv4

/-- An address of a network interface; of those that are not IPv4 only the text is kept. -/
inductive InterfaceAddress
  | v4 (ip : Ipv4)
  | other (text : String)
  deriving DecidableEq, Repr

namespace InterfaceAddress

def ofText (text : String) : InterfaceAddress :=
  match Ipv4.parse? text.toList with
  | some ip => v4 ip
  | none => other text

/-- The address if clients on other hosts can use it. -/
def reachable? : InterfaceAddress → Option Ipv4
  | v4 ip => if ip.isLoopback || ip.isUnspecified then none else some ip
  | other _ => none

end InterfaceAddress

def dropRepeats {α : Type} [DecidableEq α] : List α → List α
  | [] => []
  | [x] => [x]
  | x :: y :: rest => if x = y then dropRepeats (y :: rest) else x :: dropRepeats (y :: rest)

def reachableIpv4 (addresses : List InterfaceAddress) : List Ipv4 :=
  dropRepeats ((addresses.filterMap InterfaceAddress.reachable?).mergeSort
    fun x y => x.value ≤ y.value)

structure SocketAddress where
  ip : Ipv4
  port : UInt16
  deriving DecidableEq, Repr

def SocketAddress.text (a : SocketAddress) : String := s!"{a.ip.text}:{decimal a.port.toNat}"

end PairedAudio
