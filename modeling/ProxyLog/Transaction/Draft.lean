import ProxyLog.Transaction.Run

/-!
# Drafts of a transaction

The builder again, told one action after another. A draft remembers the last header itself, of whatever direction,
writes its record down before it looks at what the record says, and can break off in the middle: what was done until
then stays done.

* `Draft`: the transaction so far, the client phase, the last header, the buffer, and all that was remarked on.
* `Drafting α`: actions on a draft, which end with a result or break off with a `Draft.Fault`.
* `Draft.mergeInto`: merges the buffer into the headers of a side; without a side there is nothing to merge into.
* `Draft.begin r line`, `Draft.feed r`: take in a record, kind by kind.
* `Draft.Reached t d`: any such actions, finished or broken off, lead from the start of `t` to `d`.
* `Draft.builder d`: the builder that the draft is one of.
-/

set_option autoImplicit false

namespace ProxyLog

/-- A transaction in the making, with the last header in full. -/
structure Draft where
  transaction : Transaction
  clientPhase : Bool
  lastHeader : Option HeaderLine
  buffer : HeaderSet
  notices : List Notice
  deriving DecidableEq, Repr

/-- How an action breaks off. -/
inductive Draft.Fault
  /-- The record has no place here. -/
  | refused (fault : LogFault)
  /-- There are headers to merge, and none to merge them into. -/
  | noHeaders
  deriving DecidableEq, Repr

abbrev Drafting := EStateM Draft.Fault Draft

namespace Draft

/-- The draft of a transaction of which the start line was read. -/
def start (t : Transaction) : Draft := ⟨t, true, none, .empty, []⟩

/-- The side of the last header is all that a builder keeps of it. -/
def builder (d : Draft) : Builder :=
  ⟨d.transaction, d.clientPhase, d.lastHeader.bind (·.direction.side?), d.buffer⟩

/-! ## Single actions -/

def editHeaders (side : Side) (f : HeaderSet → HeaderSet) : Drafting Unit :=
  modify fun d => { d with transaction := d.transaction.mapHeaders side f }

def editBuffer (f : HeaderSet → HeaderSet) : Drafting Unit := modify fun d => { d with buffer := f d.buffer }

def setPhase (clientPhase : Bool) : Drafting Unit := modify fun d => { d with clientPhase }

def remember (h : HeaderLine) : Drafting Unit := modify fun d => { d with lastHeader := some h }

def note (n : Notice) : Drafting Unit := modify fun d => { d with notices := d.notices ++ [n] }

def push (r : Record) : Drafting Unit :=
  modify fun d => { d with transaction := { d.transaction with records := d.transaction.records ++ [r] } }

def addChild (vxid : Int) : Drafting Unit :=
  modify fun d => { d with transaction := { d.transaction with children := d.transaction.children ++ [vxid] } }

/-- Merges the buffer into the headers of a side, and empties it. An empty buffer asks for no side. -/
def mergeInto (side? : Option Side) : Drafting Unit := do
  let buffer := (← get).buffer
  match side? with
  | some side => editHeaders side (·.merge buffer)
  | none => if buffer.size ≠ 0 then throw .noHeaders
  editBuffer fun _ => .empty

/-! ## One kind of record each -/

def onCall : Drafting Unit := do
  if (← get).clientPhase then
    setPhase false
    match (← get).lastHeader with
    | none => editBuffer fun _ => .empty
    | some h => mergeInto h.direction.side?

def onLink (child : Edge) : Drafting Unit := do
  let t := (← get).transaction
  if t.children.contains child.vxid then note (.repeatedChild child.txid t.txid)
  else addChild child.vxid

def onHeader (h : HeaderLine) : Drafting Unit := do
  match h.direction.side? with
  | none => pure ()
  | some side =>
    remember h
    if !(← get).clientPhase then editHeaders side (·.addProcessed h.name h.value)
    else if h.isManaged then editBuffer (·.addProcessed h.name h.value)
    else editHeaders side (·.add h.name h.value .received)

def onUnset (h : HeaderLine) : Drafting Unit := do
  match h.direction.side? with
  | none => pure ()
  | some side =>
    let d ← get
    if d.clientPhase then
      if h.isManaged then editBuffer (·.add h.name h.value .received)
      else note (.strayUnset h.name d.transaction.txid)
    editHeaders side (·.delete h.name true)
    editBuffer (·.delete h.name false)

def onClosing : Drafting Unit := do
  if (← get).buffer.size ≠ 0 then mergeInto (some .request)

/-! ## Any record -/

/-- Does what a record asks for. -/
def handle : Payload → Drafting Unit
  | .vclCall => onCall
  | .status _ => setPhase true
  | .link child => onLink child
  | .header h => onHeader h
  | .unset h => onUnset h
  | .closing => onClosing
  | _ => pure ()

/-- Opens the transaction with the record of a line; any other record is refused. -/
def begin (r : Record) (line : String) : Drafting Unit := do
  match r.payload with
  | .opening parent =>
    modify fun d => { d with transaction := (d.builder.opened r parent).transaction }
  | _ => throw (.refused (.beginExpected r.tag line))

/-- Takes in a further record, and tells whether it closes the transaction. -/
def feed (r : Record) : Drafting Bool := do
  match r.payload with
  | .opening _ => throw (.refused (.beginRepeated (← get).transaction.vxid r.line))
  | payload =>
    push r
    handle payload
    return payload == .closing

/-- What an action makes of a draft, also when it breaks off. -/
def afterwards {α : Type} (x : Drafting α) (d : Draft) : Draft :=
  match x.run d with
  | .ok _ d' => d'
  | .error _ d' => d'

/-- The drafts that `begin` and `feed` lead to. -/
inductive Reached (t : Transaction) : Draft → Prop
  | start : Reached t (.start t)
  | begin {d : Draft} (h : Reached t d) {r : Record} (hr : r.FromLine) (line : String) :
      Reached t (afterwards (begin r line) d)
  | feed {d : Draft} (h : Reached t d) {r : Record} (hr : r.FromLine) : Reached t (afterwards (feed r) d)

end Draft

end ProxyLog
