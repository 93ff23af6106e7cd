/-!
# UTF-8

* `encodeChar`, `encode`: the octets of a character and of a text.
* `nextPiece b rest`: what stands at the start of an octet sequence: a character, or a fault and the
  number of octets it spoils.
* `decode`: the text of the octets, or the first fault with its place.
* `decodeLossy`: the text with U+FFFD for each fault.

Overlong forms, surrogates and values above U+10FFFF are faults. A fault spoils the longest start
of a well-formed sequence that is there, at least one octet.
-/

set_option autoImplicit false

namespace ProxyLog.Text.Utf8

/-! ## Encoding -/

def encodeChar (c : Char) : List UInt8 :=
  let n := c.toNat
  let tail (unit : Nat) : UInt8 := UInt8.ofNat (0x80 + n / unit % 0x40)
  if n < 0x80 then [UInt8.ofNat n]
  else if n < 0x800 then [UInt8.ofNat (0xc0 + n / 0x40), tail 1]
  else if n < 0x10000 then [UInt8.ofNat (0xe0 + n / 0x1000), tail 0x40, tail 1]
  else [UInt8.ofNat (0xf0 + n / 0x40000), tail 0x1000, tail 0x40, tail 1]

def encode (cs : List Char) : List UInt8 := cs.flatMap encodeChar

/-! ## Decoding -/

/-- Why octets are no UTF-8. -/
inductive Fault
  | badStart
  | badContinuation
  | truncated
  deriving DecidableEq, Repr

/-- What stands at the start of an octet sequence, and how many octets it takes. -/
inductive Piece
  | char (c : Char) (size : Nat)
  | fault (fault : Fault) (size : Nat)
  deriving DecidableEq, Repr

/-- The octet continues a sequence. -/
def isTail (b : UInt8) : Bool := 0x80 ≤ b.toNat && b.toNat < 0xc0

/-- The octets of a sequence after the first: `need` are wanted, `done` were read, `value` is the
number so far, and the next octet has to lie from `low` to `high`. -/
def readTail (need done value low high : Nat) : List UInt8 → Piece
  | rest =>
    match need, rest with
    | 0, _ => .char (Char.ofNat value) done
    | _ + 1, [] => .fault .truncated done
    | need + 1, b :: rest =>
      if low ≤ b.toNat ∧ b.toNat ≤ high then
        readTail need (done + 1) (value * 64 + (b.toNat - 0x80)) 0x80 0xbf rest
      else .fault .badContinuation done

/-- The character or the fault that a first octet and its followers make. The second octet's span
keeps out overlong forms, surrogates and values that are too large. -/
def nextPiece (b : UInt8) (rest : List UInt8) : Piece :=
  let n := b.toNat
  if n < 0x80 then .char (Char.ofNat n) 1
  else if n < 0xc2 then .fault .badStart 1
  else if n < 0xe0 then readTail 1 1 (n - 0xc0) 0x80 0xbf rest
  else if n < 0xf0 then
    readTail 2 1 (n - 0xe0) (if n = 0xe0 then 0xa0 else 0x80) (if n = 0xed then 0x9f else 0xbf) rest
  else if n < 0xf5 then
    readTail 3 1 (n - 0xf0) (if n = 0xf0 then 0x90 else 0x80) (if n = 0xf4 then 0x8f else 0xbf) rest
  else .fault .badStart 1

/-- A fault and the octets it spoils. -/
structure FaultAt where
  fault : Fault
  start : Nat
  size : Nat
  deriving DecidableEq, Repr

/-- Decodes octets from position `pos` on: `skip` of them belong to a character that is already in
`out`, which holds the text so far, last character first. -/
def decodeFrom (pos skip : Nat) (out : List Char) : List UInt8 → Except FaultAt (List Char)
  | [] => .ok out.reverse
  | b :: rest =>
    match skip with
    | k + 1 => decodeFrom (pos + 1) k out rest
    | 0 =>
      match nextPiece b rest with
      | .char c size => decodeFrom (pos + 1) (size - 1) (c :: out) rest
      | .fault fault size => .error ⟨fault, pos, size⟩

def decode (bytes : List UInt8) : Except FaultAt (List Char) := decodeFrom 0 0 [] bytes

/-- The text of the octets from some place on, with U+FFFD for each fault. -/
def decodeLossyFrom (skip : Nat) (out : List Char) : List UInt8 → List Char
  | [] => out.reverse
  | b :: rest =>
    match skip with
    | k + 1 => decodeLossyFrom k out rest
    | 0 =>
      match nextPiece b rest with
      | .char c size => decodeLossyFrom (size - 1) (c :: out) rest
      | .fault _ size => decodeLossyFrom (size - 1) ('\uFFFD' :: out) rest

/-- The text of the octets, with U+FFFD for each fault. -/
def decodeLossy (bytes : List UInt8) : List Char := decodeLossyFrom 0 [] bytes

end ProxyLog.Text.Utf8
