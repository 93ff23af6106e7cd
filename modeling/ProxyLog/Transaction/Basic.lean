import ProxyLog.Header.Diff
import ProxyLog.Record.Line

/-!
# Transactions

* `TransactionKind`, `Transaction`: what the log tells of a session, a client request or a backend
  request.
* `isStartLine`, `readLevel`, `Transaction.ofStartLine`: the line that starts a transaction, for
  instance `**  << Request  >> 4`.
* `Transaction.placeholder`: stands in for a linked transaction that the log lacks.
* `Transaction.isComplete`, `recordByTag`, `valueByTag`, `changes`, `rawLines`: what is asked of a
  transaction.
-/

set_option autoImplicit false

namespace ProxyLog

/-! ## The type -/

inductive TransactionKind
  | session
  | request
  | backendRequest
  deriving DecidableEq, Repr

namespace TransactionKind

def name : TransactionKind → String
  | session => "Session"
  | request => "Request"
  | backendRequest => "BeReq"

/-- The kind that a start line names. -/
def ofName? : String → Option TransactionKind
  | "Session" => some session
  | "Request" => some request
  | "BeReq" => some backendRequest
  | _ => none

/-- The kind that a link speaks of; words that are not known mean a request. -/
def ofLink : String → TransactionKind
  | "sess" => session
  | "bereq" => backendRequest
  | _ => request

end TransactionKind

/-- What the log tells of one transaction. Ids and levels on a start line are never negative; a
transaction that is put together otherwise may have any. -/
structure Transaction where
  vxid : Int
  kind : TransactionKind
  level : Int
  startLine : String
  esiLevel : Int
  txid : String
  reason : String
  parent : Option Int
  records : List Record
  requestHeaders : HeaderSet
  responseHeaders : HeaderSet
  children : List Int
  missing : Bool
  deriving DecidableEq, Repr

namespace Transaction

/-- A transaction of which only the start line was read. -/
def started (vxid : Int) (kind : TransactionKind) (level : Int) (startLine : String) : Transaction :=
  { vxid, kind, level, startLine, esiLevel := 0, txid := "", reason := "", parent := none
    records := [], requestHeaders := .empty, responseHeaders := .empty, children := []
    missing := false }

def headers (t : Transaction) : Side → HeaderSet
  | .request => t.requestHeaders
  | .response => t.responseHeaders

def mapHeaders (t : Transaction) (side : Side) (f : HeaderSet → HeaderSet) : Transaction :=
  match side with
  | .request => { t with requestHeaders := f t.requestHeaders }
  | .response => { t with responseHeaders := f t.responseHeaders }

/-! ## Start lines -/

end Transaction

/-- The line starts a transaction: five fields, a star first and then an opening bracket. -/
def isStartLine (line : String) : Bool :=
  match Text.wordsOf line.toList with
  | [marker, bracket, _, _, _] => marker.head? == some '*' && bracket.head? == some '<'
  | _ => false

/-- The nesting level that a marker shows: the number of stars, or the number among them. -/
def readLevel (marker : String) : Except Failure Nat :=
  let cs := marker.toList
  let digits := cs.filter (· != '*')
  if digits.isEmpty then .ok cs.length
  else if !digits.all Text.isAsciiDigit then .error (.malformed (.badLevel marker))
  else if digits.length > Number.digitLimit then .error (.tooManyDigits digits.length)
  else .ok (Number.digitsValue digits)

/-- The transaction that a start line starts. -/
def Transaction.ofStartLine (line : String) : Except Failure Transaction :=
  match Text.words line with
  | [marker, _, kind, _, vxid] => do
    let kind ←
      match TransactionKind.ofName? kind with
      | some k => pure k
      | none => throw (.malformed (.unknownKind kind line))
    let vxid ← catching [.value] VxidFault.raised (fun fault => .malformed (.badStartVxid fault line)) .escaped
      (readVxid vxid)
    let level ← readLevel marker
    pure (.started vxid kind level line)
  | _ => .error (.malformed (.badStartLine line))

/-! ## Placeholders -/

/-- What the only record of a missing transaction says. -/
def missingMessage : String := "This transaction is not present in the provided VSL logs"

namespace Transaction

/-- Stands in for a linked transaction that the log lacks. -/
def placeholder (link : Edge) : Transaction :=
  { started link.vxid (.ofLink link.kind) 0 "" with
    esiLevel := link.esiLevel
    txid := link.txid
    reason := link.reason
    records := [⟨missingTag, missingMessage, "", .generic⟩]
    missing := true }

/-! ## Questions -/

/-- The last record closes the transaction. -/
def isComplete (t : Transaction) : Bool :=
  match t.records.getLast? with
  | some r => r.payload == .closing
  | none => false

/-- The first or the last record with a tag. -/
def recordByTag (t : Transaction) (tag : String) (first : Bool) : Option Record :=
  if first then t.records.find? (·.tag == tag) else t.records.reverse.find? (·.tag == tag)

/-- The value of that record, empty when there is none. -/
def valueByTag (t : Transaction) (tag : String) (first : Bool) : String :=
  match t.recordByTag tag first with
  | some r => r.value
  | none => ""

/-- What became of the headers of one side. -/
def changes (t : Transaction) (side : Side) : List HeaderChange := headerChanges side t.records

/-- The lines of the log that tell of the transaction. -/
def rawLines (t : Transaction) : List String := t.startLine :: t.records.map (·.line)

/-- The links of a transaction, in order. -/
def links (t : Transaction) : List Edge :=
  t.records.filterMap fun r =>
    match r.payload with
    | .link child => some child
    | _ => none

def summary (t : Transaction) : String :=
  s!"Transaction(txid={Text.quote t.txid}, type={t.kind.name}, records={t.records.length})"

end Transaction

def HeaderSet.summary (hs : HeaderSet) : String :=
  "Headers([" ++ ", ".intercalate (hs.names.map Text.quote) ++ "])"

end ProxyLog
