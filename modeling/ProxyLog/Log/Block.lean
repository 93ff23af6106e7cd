import ProxyLog.Log.Reading
import ProxyLog.Transaction.Run

/-!
# The grammar of a log

A log is a row of parts, and each part is either one line of noise or the block of one transaction: a
start line, the line of an opening record, further lines, and the line of a closing record.

* `IsProperStart line`: a start line that names a transaction.
* `Block`, `Block.IsValid`: the trimmed lines of one transaction.
* `readRecords lines`: the records of lines, without those of fewer than two fields.
* `Block.Tells b t`: the block tells of the transaction `t`.
* `LogPart`, `LogPart.IsValid`: noise or a block; `IsLog parts lines`: the lines consist of the parts.
-/

set_option autoImplicit false

namespace ProxyLog

/-! ## Start lines -/

/-- The marker of a start line: stars only, or digits among stars. -/
def IsMarker (marker : List Char) : Prop :=
  marker.head? = some '*' ∧ ∀ c ∈ marker, c = '*' ∨ Text.isAsciiDigit c = true

/-- The text writes a transaction id in decimal. -/
def IsVxid (text : List Char) : Prop :=
  text ≠ [] ∧ (∀ c ∈ text, Text.isAsciiDigit c = true) ∧ Number.digitsValue text ≤ maxVxid

/-- A start line of five fields, each of which is as it should be. -/
def IsProperStart (line : String) : Prop :=
  ∃ marker bracket kind closing vxid,
    Text.words line = [marker, bracket, kind, closing, vxid] ∧ IsMarker marker.toList ∧
      bracket.toList.head? = some '<' ∧ (TransactionKind.ofName? kind).isSome ∧ IsVxid vxid.toList

/-! ## Blocks -/

/-- The lines of one transaction, trimmed. -/
structure Block where
  start : String
  opening : String
  body : List String
  closing : String
  deriving DecidableEq, Repr

namespace Block

/-- The lines behind the start line. -/
def recordLines (b : Block) : List String := b.opening :: b.body ++ [b.closing]

def lines (b : Block) : List String := b.start :: b.recordLines

/-- The lines that count: all but those of fewer than two fields. -/
def keptLines (b : Block) : List String := b.start :: b.recordLines.filter hasTwoFields

end Block

/-- The line is read as a record. -/
def Reads (line : String) (r : Record) : Prop := (Record.ofLine line).result = .ok r

/-- The lines are those of one transaction. -/
structure Block.IsValid (b : Block) : Prop where
  start : IsProperStart b.start
  opening : ∃ r, Reads b.opening r ∧ r.family = .opening
  body : ∀ line ∈ b.body, hasTwoFields line = false ∨
    ∃ r, Reads line r ∧ r.family ≠ .opening ∧ r.family ≠ .closing
  closing : ∃ r, Reads b.closing r ∧ r.family = .closing

/-! ## What a block tells -/

/-- The records of lines, without those of fewer than two fields. -/
def readRecords (lines : List String) : Except Failure (List Record) :=
  (lines.filter hasTwoFields).mapM fun line => (Record.ofLine line).result

/-- The block tells of a transaction. -/
def Block.Tells (b : Block) (t : Transaction) : Prop :=
  ∃ started rs, Transaction.ofStartLine b.start = .ok started ∧ readRecords b.recordLines = .ok rs ∧
    started.BuiltFrom rs t

/-! ## Logs -/

/-- A part of a log. -/
inductive LogPart
  | noise (line : String)
  | block (block : Block)
  deriving DecidableEq, Repr

namespace LogPart

def lines : LogPart → List String
  | noise line => [line]
  | block b => b.lines

def block? : LogPart → Option Block
  | noise _ => none
  | block b => some b

/-- Noise starts no transaction, and a block has the form of one. -/
def IsValid : LogPart → Prop
  | noise line => isStartLine line = false
  | block b => b.IsValid

end LogPart

/-- The lines, trimmed, consist of the parts. -/
def IsLog (parts : List LogPart) (lines : List String) : Prop :=
  lines.map Text.strip = parts.flatMap (·.lines) ∧ ∀ p ∈ parts, p.IsValid

end ProxyLog
