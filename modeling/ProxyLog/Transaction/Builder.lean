import ProxyLog.Transaction.Basic

/-!
# Building a transaction

The records of a transaction are taken in one by one. The proxy changes some headers of a client
request before any call of the configuration, and it cannot be seen at once whether such a header
came from the client. These headers are kept in a buffer until the first call and merged then, so
that only what the client really sent counts as received.

* `Builder`: the transaction so far, whether headers are still coming in (the client phase), the
  side of the last header, and the buffer.
* `Builder.accept b r`: takes in a record; `Builder.remarks b r` is what is noticed about it.
* `Builder.begin b r line`: takes in the record that opens the transaction.
* `Builder.feed b r`: takes in any further record, and tells whether it closes the transaction.

Both give the builder afterwards and an outcome; a builder that refuses a record is unchanged.
-/

set_option autoImplicit false

namespace ProxyLog

/-- A transaction in the making. -/
structure Builder where
  transaction : Transaction
  clientPhase : Bool
  lastSide : Option Side
  buffer : HeaderSet
  deriving DecidableEq, Repr

/-- A builder after a step, and the outcome of the step. -/
structure BuilderStep (α : Type) where
  builder : Builder
  outcome : Outcome Failure α

namespace Builder

/-- The builder of a transaction of which the start line was read. -/
def start (t : Transaction) : Builder := ⟨t, true, none, .empty⟩

def mapHeaders (b : Builder) (side : Side) (f : HeaderSet → HeaderSet) : Builder :=
  { b with transaction := b.transaction.mapHeaders side f }

/-! ## One kind of record each -/

/-- Merges the buffer into the headers of a side. -/
def mergeBuffer (b : Builder) (side : Side) : Builder :=
  { b.mapHeaders side (·.merge b.buffer) with buffer := .empty }

/-- A call ends the client phase. The side of the last header tells which set was coming in. -/
def onCall (b : Builder) : Builder :=
  if b.clientPhase then
    match b.lastSide with
    | some side => { b.mergeBuffer side with clientPhase := false }
    | none => { b with clientPhase := false, buffer := .empty }
  else b

/-- A link adds a child, once. -/
def onLink (b : Builder) (child : Edge) : Builder :=
  if b.transaction.children.contains child.vxid then b
  else { b with transaction := { b.transaction with children := b.transaction.children ++ [child.vxid] } }

/-- A header is processed, buffered or received. -/
def onHeader (b : Builder) (h : HeaderLine) : Builder :=
  match h.direction.side? with
  | none => b
  | some side =>
    let b := { b with lastSide := some side }
    if !b.clientPhase then b.mapHeaders side (·.addProcessed h.name h.value)
    else if h.isManaged then { b with buffer := b.buffer.addProcessed h.name h.value }
    else b.mapHeaders side (·.add h.name h.value .received)

/-- An unset header is marked as deleted. One that the proxy manages tells, while headers are coming
in, what the client sent. -/
def onUnset (b : Builder) (h : HeaderLine) : Builder :=
  match h.direction.side? with
  | none => b
  | some side =>
    let buffer :=
      if b.clientPhase && h.isManaged then b.buffer.add h.name h.value .received else b.buffer
    { b.mapHeaders side (·.delete h.name true) with buffer := buffer.delete h.name false }

/-- The end merges what is still in the buffer into the headers of the request. -/
def onClosing (b : Builder) : Builder := if b.buffer.size = 0 then b else b.mergeBuffer .request

def push (b : Builder) (r : Record) : Builder :=
  { b with transaction := { b.transaction with records := b.transaction.records ++ [r] } }

/-! ## Any record -/

def accept (b : Builder) (r : Record) : Builder :=
  let b := b.push r
  match r.payload with
  | .vclCall => b.onCall
  | .status _ => { b with clientPhase := true }
  | .link child => b.onLink child
  | .header h => b.onHeader h
  | .unset h => b.onUnset h
  | .closing => b.onClosing
  | _ => b

def remarks (b : Builder) (r : Record) : List Notice :=
  match r.payload with
  | .link child =>
    if b.transaction.children.contains child.vxid then
      [.repeatedChild child.txid b.transaction.txid]
    else []
  | .unset h =>
    if h.direction.side?.isSome && b.clientPhase && !h.isManaged then
      [.strayUnset h.name b.transaction.txid]
    else []
  | _ => []

/-- Takes in the record that opens a transaction. -/
def opened (b : Builder) (r : Record) (parent : Edge) : Builder :=
  let t := b.transaction
  { b with
    transaction :=
      { t with
        parent := if parent.vxid = 0 then none else some parent.vxid
        esiLevel := parent.esiLevel
        reason := parent.reason
        txid := txidOf t.vxid parent.kind parent.esiLevel
        records := t.records ++ [r] } }

/-- Opens the transaction with the record of a line; any other record is refused. -/
def begin (b : Builder) (r : Record) (line : String) : BuilderStep Unit :=
  match r.payload with
  | .opening parent => ⟨b.opened r parent, pure ()⟩
  | _ => ⟨b, .fail (.malformed (.beginExpected r.tag line))⟩

/-- Takes in a further record; one that opens a transaction is refused. -/
def feed (b : Builder) (r : Record) : BuilderStep Bool :=
  match r.payload with
  | .opening _ => ⟨b, .fail (.malformed (.beginRepeated b.transaction.vxid r.line))⟩
  | _ => ⟨b.accept r, ⟨b.remarks r, .ok (r.payload == .closing)⟩⟩

end Builder

end ProxyLog
