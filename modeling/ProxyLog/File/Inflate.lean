import ProxyLog.File.Bits

/-!
# Inflating compressed data

Compressed data is a sequence of blocks. A block holds octets as they are, or literals and copies
of earlier output in a fixed prefix code or in one that stands at its front.

* `InflateFault`: why data cannot be inflated; `InflateFault.message` is what is said about it.
* `Inflater`: what reads a part of the data and may fail.
* `inflate octets`: the output, and the octets behind the last block.
-/

set_option autoImplicit false

namespace ProxyLog.File

/-- Why data cannot be inflated. -/
inductive InflateFault
  | truncated
  | badBlockType
  | badStoredLengths
  | tooManySymbols
  | badCodeLengths
  | badRepeat
  | noEndCode
  | badLiteralCode
  | badDistanceCode
  | unknownLiteral
  | unknownDistance
  | tooFarBack
  deriving DecidableEq, Repr

/-- What is said about data that cannot be inflated; nothing special if it merely ends too early. -/
def InflateFault.reason : InflateFault → String
  | .truncated => "unexpected end"
  | .badBlockType => "invalid block type"
  | .badStoredLengths => "invalid stored block lengths"
  | .tooManySymbols => "too many length or distance symbols"
  | .badCodeLengths => "invalid code lengths set"
  | .badRepeat => "invalid bit length repeat"
  | .noEndCode => "invalid code -- missing end-of-block"
  | .badLiteralCode => "invalid literal/lengths set"
  | .badDistanceCode => "invalid distances set"
  | .unknownLiteral => "invalid literal/length code"
  | .unknownDistance => "invalid distance code"
  | .tooFarBack => "invalid distance too far back"

/-- Reads a part of compressed data. -/
abbrev Inflater := StateT BitSource (Except InflateFault)

/-- The next bits as a number. -/
def needBits (n : Nat) : Inflater Nat := fun source =>
  match source.takeBits? n with
  | some x => .ok x
  | none => .error .truncated

/-- The next symbol of a code; `unknown` is the fault of bits that start with none. -/
def needSymbol (code : PrefixCode) (unknown : InflateFault) : Inflater Nat := fun source =>
  match code.decode source with
  | .symbol s source => .ok (s, source)
  | .unknown => .error unknown
  | .truncated => .error .truncated

/-! ## Codes of a block -/

/-- The codes of a block, for literals and lengths and for distances. -/
structure BlockCodes where
  literals : PrefixCode
  distances : PrefixCode

/-- The codes that blocks use unless they bring their own. -/
def fixedCodes : BlockCodes :=
  ⟨.ofLengths (List.replicate 144 8 ++ List.replicate 112 9 ++ List.replicate 24 7 ++ List.replicate 8 8),
    .ofLengths (List.replicate 32 5)⟩

/-- The order in which the lengths of the codes for code lengths are given. -/
def lengthOrder : List Nat := [16, 17, 18, 0, 8, 7, 9, 6, 10, 5, 11, 4, 12, 3, 13, 2, 14, 1, 15]

/-- The code for code lengths. One without symbols reads every bit as length zero. -/
def lengthCode (numbers : List Nat) : Except InflateFault PrefixCode :=
  let given := lengthOrder.zip numbers
  let code := PrefixCode.ofLengths ((List.range 19).map fun s => (given.lookup s).getD 0)
  if code.isEmpty then .ok ⟨[#[0, 0]]⟩
  else if code.isComplete then .ok code
  else .error .badCodeLengths

/-- What a symbol of the code for code lengths adds to the lengths so far, last first: a length, or
so many repetitions of one. -/
def lengthsOf (lengths : List Nat) (s : Nat) : Inflater (List Nat) := do
  match s, lengths with
  | 16, last :: _ => pure (List.replicate (3 + (← needBits 2)) last)
  | 16, [] =>
    let _ ← needBits 2
    throw .badRepeat
  | 17, _ => pure (List.replicate (3 + (← needBits 3)) 0)
  | 18, _ => pure (List.replicate (11 + (← needBits 7)) 0)
  | length, _ => pure [length]

/-- Reads code lengths until there are `wanted`. Each round adds one at least, so that `fuel` need
not exceed their number. -/
def codeLengths (code : PrefixCode) (wanted : Nat) (lengths : List Nat) : Nat → Inflater (List Nat)
  | 0 => pure lengths.reverse
  | fuel + 1 => do
    if wanted ≤ lengths.length then pure lengths.reverse
    else
      let s ← needSymbol code .badCodeLengths
      let more ← lengthsOf lengths s
      if wanted < lengths.length + more.length then throw .badRepeat
      codeLengths code wanted (more ++ lengths) fuel

/-- The codes at the front of a block. -/
def ownCodes : Inflater BlockCodes := do
  let literals := (← needBits 5) + 257
  let distances := (← needBits 5) + 1
  let count := (← needBits 4) + 4
  if 286 < literals || 30 < distances then throw .tooManySymbols
  let numbers ← (List.range count).mapM fun _ => needBits 3
  let code ← lengthCode numbers
  let wanted := literals + distances
  let lengths ← codeLengths code wanted [] wanted
  if lengths[256]?.getD 0 = 0 then throw .noEndCode
  let literalCode := PrefixCode.ofLengths (lengths.take literals)
  if !literalCode.isUsable then throw .badLiteralCode
  let distanceCode := PrefixCode.ofLengths (lengths.drop literals)
  if !distanceCode.isUsable then throw .badDistanceCode
  pure ⟨literalCode, distanceCode⟩

/-! ## Contents of a block -/

/-- The least length and the number of further bits for each length symbol. -/
def lengthSymbols : List (Nat × Nat) := [
  (3, 0), (4, 0), (5, 0), (6, 0), (7, 0), (8, 0), (9, 0), (10, 0), (11, 1), (13, 1), (15, 1), (17, 1),
  (19, 2), (23, 2), (27, 2), (31, 2), (35, 3), (43, 3), (51, 3), (59, 3), (67, 4), (83, 4), (99, 4),
  (115, 4), (131, 5), (163, 5), (195, 5), (227, 5), (258, 0)]

/-- The least distance and the number of further bits for a distance symbol. -/
def distanceSymbol? (s : Nat) : Option (Nat × Nat) :=
  if 30 ≤ s then none
  else if s < 2 then some (s + 1, 0)
  else
    let extra := s / 2 - 1
    some (Nat.pow 2 extra * (2 + s % 2) + 1, extra)

/-- Repeats output from some distance back. -/
def copyBack (out : Array UInt8) (distance : Nat) : Nat → Array UInt8
  | 0 => out
  | n + 1 => copyBack (out.push (out[out.size - distance]?.getD 0)) distance n

/-- Reads a copy, given the symbol of its length: the length and the distance. -/
def readCopy (codes : BlockCodes) (s : Nat) : Inflater (Nat × Nat) := do
  match lengthSymbols[s - 257]? with
  | none => throw .unknownLiteral
  | some (least, extra) =>
    let length := least + (← needBits extra)
    match distanceSymbol? (← needSymbol codes.distances .unknownDistance) with
    | none => throw .unknownDistance
    | some (least, extra) => pure (length, least + (← needBits extra))

/-- Reads the literals and copies of a block. Each takes a bit at least, so that `fuel` need not
exceed their number. -/
def readSymbols (codes : BlockCodes) (out : Array UInt8) : Nat → Inflater (Array UInt8)
  | 0 => throw .truncated
  | fuel + 1 => do
    let s ← needSymbol codes.literals .unknownLiteral
    if s < 256 then readSymbols codes (out.push (UInt8.ofNat s)) fuel
    else if s = 256 then pure out
    else
      let (length, distance) ← readCopy codes s
      if out.size < distance then throw .tooFarBack
      readSymbols codes (copyBack out distance length) fuel

/-- Reads octets that are given as they are, from the next whole octet on. -/
def readStored (out : Array UInt8) : Inflater (Array UInt8) := fun source =>
  match source.octets with
  | a :: b :: c :: d :: rest =>
    let length := a.toNat + 256 * b.toNat
    if length + (c.toNat + 256 * d.toNat) ≠ 65535 then .error .badStoredLengths
    else if rest.length < length then .error .truncated
    else .ok (out ++ (rest.take length).toArray, .ofOctets (rest.drop length))
  | _ => .error .truncated

/-- Reads the contents of a block of one of the types. -/
def readBlock (kind : Nat) (out : Array UInt8) : Inflater (Array UInt8) := do
  match kind with
  | 0 => readStored out
  | 1 => readSymbols fixedCodes out ((← get).size + 1)
  | 2 =>
    let codes ← ownCodes
    readSymbols codes out ((← get).size + 1)
  | _ => throw .badBlockType

/-! ## Whole data -/

/-- Reads blocks up to the last. Each takes three bits at least, so that `fuel` need not exceed the
number of bits. -/
def readBlocks (out : Array UInt8) : Nat → Inflater (Array UInt8)
  | 0 => throw .truncated
  | fuel + 1 => do
    let last ← needBits 1
    let kind ← needBits 2
    let out ← readBlock kind out
    if last = 1 then pure out else readBlocks out fuel

/-- The output of compressed data, and the octets behind it. -/
def inflate (octets : List UInt8) : Except InflateFault (Array UInt8 × List UInt8) :=
  let source := BitSource.ofOctets octets
  ((readBlocks #[] (source.size + 1)).run source).map fun (out, rest) => (out, rest.octets)

end ProxyLog.File
