import ProxyLog.File.Inflate
import ProxyLog.Text.Quoted

/-!
# Files in gzip form

A file consists of members with zero octets between them. Each has a header, compressed data, and
the checksum and size of the output.

* `GzipFault`: why a file cannot be read; `GzipFault.message` is what is said about it.
* `checksum octets`: the cyclic redundancy check of 32 bits.
* `gunzip octets`: the output of all members, one after another.
-/

set_option autoImplicit false

namespace ProxyLog.File

/-! ## Faults -/

/-- Why a file is not in gzip form. -/
inductive GzipFault
  | badMagic (octets : List UInt8)
  | unknownMethod
  | truncated
  | damaged (fault : InflateFault)
  | badChecksum (stated actual : UInt32)
  | badSize
  deriving DecidableEq, Repr

/-- An octet as it is shown between two quotes. -/
def shownOctet (mark : Char) (b : UInt8) : List Char :=
  let c := Char.ofNat b.toNat
  if c = mark || c = '\\' then ['\\', c]
  else if c = '\n' then ['\\', 'n']
  else if c = '\r' then ['\\', 'r']
  else if c = '\t' then ['\\', 't']
  else if 0x20 ≤ b.toNat && b.toNat < 0x7f then [c]
  else '\\' :: 'x' :: Text.hexDigits 2 b.toNat

def shownOctets (octets : List UInt8) : String :=
  let mark := Text.quoteMark (octets.map fun b => Char.ofNat b.toNat)
  String.ofList ('b' :: mark :: octets.flatMap (shownOctet mark) ++ [mark])

def hexText (n : UInt32) : String := String.ofList ('0' :: 'x' :: Nat.toDigits 16 n.toNat)

def GzipFault.message : GzipFault → String
  | .badMagic octets => s!"Not a gzipped file ({shownOctets octets})"
  | .unknownMethod => "Unknown compression method"
  | .truncated | .damaged .truncated =>
    "Compressed file ended before the end-of-stream marker was reached"
  | .damaged fault => "Error -3 while decompressing data: " ++ fault.reason
  | .badChecksum stated actual => s!"CRC check failed {hexText stated} != {hexText actual}"
  | .badSize => "Incorrect length of data produced"

/-! ## Checksum -/

/-- Shifts a bit out of the remainder. -/
def checksumBit (r : UInt32) : UInt32 := if r &&& 1 = 1 then (r >>> 1) ^^^ 0xedb88320 else r >>> 1

/-- Takes an octet into the remainder. -/
def checksumOctet (r : UInt32) (b : UInt8) : UInt32 := Nat.repeat checksumBit 8 (r ^^^ b.toUInt32)

/-- The cyclic redundancy check of some octets. -/
def checksum (octets : Array UInt8) : UInt32 := octets.foldl checksumOctet 0xffffffff ^^^ 0xffffffff

/-! ## Header -/

/-- The octets behind the first `n`. -/
def dropOctets (n : Nat) (octets : List UInt8) : Except GzipFault (List UInt8) :=
  if octets.length < n then .error .truncated else .ok (octets.drop n)

/-- The octets behind a text that ends at a zero octet. -/
def dropName (octets : List UInt8) : List UInt8 := (octets.dropWhile (· != 0)).drop 1

/-- The octets behind the further fields of a header that its flags announce. -/
def dropFields (flags : Nat) (octets : List UInt8) : Except GzipFault (List UInt8) := do
  let octets ←
    if flags.testBit 2 then
      match octets with
      | a :: b :: rest => dropOctets (a.toNat + 256 * b.toNat) rest
      | _ => throw .truncated
    else pure octets
  let octets := if flags.testBit 3 then dropName octets else octets
  let octets := if flags.testBit 4 then dropName octets else octets
  if flags.testBit 1 then dropOctets 2 octets else pure octets

/-- The octets behind a header. -/
def dropHeader (octets : List UInt8) : Except GzipFault (List UInt8) :=
  if octets.take 2 ≠ [0x1f, 0x8b] then .error (.badMagic (octets.take 2))
  else
    match octets.drop 2 with
    | method :: flags :: _ :: _ :: _ :: _ :: _ :: _ :: rest =>
      if method ≠ 8 then .error .unknownMethod else dropFields flags.toNat rest
    | _ => .error .truncated

/-! ## Members -/

/-- A number of four octets, lowest first. -/
def wordOf (a b c d : UInt8) : UInt32 :=
  a.toUInt32 + 256 * (b.toUInt32 + 256 * (c.toUInt32 + 256 * d.toUInt32))

/-- Checks the output of a member against what stands behind its data, and passes that and the
zero octets that follow. -/
def checkTrailer (out : Array UInt8) : List UInt8 → Except GzipFault (List UInt8)
  | a :: b :: c :: d :: e :: f :: g :: h :: rest =>
    if wordOf a b c d ≠ checksum out then .error (.badChecksum (wordOf a b c d) (checksum out))
    else if wordOf e f g h ≠ UInt32.ofNat out.size then .error .badSize
    else .ok (rest.dropWhile (· = 0))
  | _ => .error .truncated

/-- The output of a member, and the octets behind it. -/
def readMember (octets : List UInt8) : Except GzipFault (Array UInt8 × List UInt8) := do
  let data ← dropHeader octets
  match inflate data with
  | .error fault => throw (.damaged fault)
  | .ok (out, trailer) => pure (out, ← checkTrailer out trailer)

/-- Reads members to the end. Each takes an octet at least, so that `fuel` need not exceed their
number. -/
def readMembers (out : Array UInt8) (octets : List UInt8) : Nat → Except GzipFault (Array UInt8)
  | 0 => .ok out
  | fuel + 1 => do
    if octets.isEmpty then pure out
    else
      let (more, rest) ← readMember octets
      readMembers (out ++ more) rest fuel

/-- The output of a file in gzip form. -/
def gunzip (octets : List UInt8) : Except GzipFault (List UInt8) :=
  (readMembers #[] octets octets.length).map (·.toList)

end ProxyLog.File
