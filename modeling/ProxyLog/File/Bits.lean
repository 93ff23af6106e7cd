/-!
# Bits and prefix codes

* `BitSource`: octets that are read bit by bit, the lowest bit of each octet first.
* `BitSource.takeBit?`, `BitSource.takeBits? n`: the next bit, and the number that the next `n`
  bits write, lowest bit first.
* `PrefixCode`: the code in which symbols of a given code length follow each other in order;
  `PrefixCode.ofLengths` builds it from the lengths, `PrefixCode.decode` reads a symbol.
-/

set_option autoImplicit false

namespace ProxyLog.File

/-! ## Bits -/

/-- Octets that are read bit by bit: what is left of the present octet, and those behind it. -/
structure BitSource where
  pending : List Bool
  octets : List UInt8

namespace BitSource

/-- The source in front of some octets. -/
def ofOctets (octets : List UInt8) : BitSource := ⟨[], octets⟩

/-- The bits of an octet, lowest first. -/
def bitsOf (b : UInt8) : List Bool := (List.range 8).map b.toNat.testBit

def takeBit? (s : BitSource) : Option (Bool × BitSource) :=
  match s.pending, s.octets with
  | b :: pending, octets => some (b, ⟨pending, octets⟩)
  | [], octet :: octets => (bitsOf octet).head?.map fun b => (b, ⟨(bitsOf octet).tail, octets⟩)
  | [], [] => none

/-- The number that the next bits write. -/
def takeBits? (s : BitSource) : Nat → Option (Nat × BitSource)
  | 0 => some (0, s)
  | n + 1 => do
    let (b, s) ← s.takeBit?
    let (high, s) ← s.takeBits? n
    pure (b.toNat + 2 * high, s)

/-- The number of bits that are left. -/
def size (s : BitSource) : Nat := s.pending.length + 8 * s.octets.length

end BitSource

/-! ## Prefix codes -/

/-- A prefix code: for each code length, from one on, its symbols in the order of their codes. -/
structure PrefixCode where
  levels : List (Array Nat)

namespace PrefixCode

/-- The code in which symbol `k` has the length at position `k`; length zero stands for no code. -/
def ofLengths (lengths : List Nat) : PrefixCode :=
  let longest := max 1 (lengths.foldl max 0)
  ⟨(List.range longest).map fun k =>
    ((lengths.zipIdx.filter (·.1 = k + 1)).map (·.2)).toArray⟩

/-- The number of codes of the greatest length that are left over; none if there are too few. -/
def spare (c : PrefixCode) : Option Nat :=
  c.levels.foldl
    (fun left level => left.bind fun n => if level.size ≤ 2 * n then some (2 * n - level.size) else none)
    (some 1)

/-- Every sequence of bits starts with a code. -/
def isComplete (c : PrefixCode) : Bool := c.spare == some 0

/-- No symbol has a code. -/
def isEmpty (c : PrefixCode) : Bool := c.levels.all (·.isEmpty)

/-- The code is complete, or codes are left over and none is longer than a bit. -/
def isUsable (c : PrefixCode) : Bool := c.isComplete || (c.spare.isSome && c.levels.length ≤ 1)

/-- What the bits of a source start with. -/
inductive Decoded
  | symbol (s : Nat) (rest : BitSource)
  | unknown
  | truncated

/-- Reads the code of a symbol bit by bit: `offset` is the distance of the bits so far from the
first code of their length. -/
def decodeFrom (offset : Nat) (source : BitSource) : List (Array Nat) → Decoded
  | [] => .unknown
  | level :: levels =>
    match source.takeBit? with
    | none => .truncated
    | some (bit, source) =>
      let offset := 2 * offset + bit.toNat
      match level[offset]? with
      | some s => .symbol s source
      | none => decodeFrom (offset - level.size) source levels

def decode (c : PrefixCode) (source : BitSource) : Decoded := decodeFrom 0 source c.levels

end PrefixCode

end ProxyLog.File
