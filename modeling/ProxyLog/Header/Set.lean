import ProxyLog.Header.Name
import ProxyLog.OrderedMap

/-!
# Header sets

Several headers may have one name, and setting or unsetting a name acts on all of them. A header
keeps its values after processing and, apart from them, the values that were received.

* `HeaderState`, `HeaderValue`, `Header`: a value with its state, and all the values of a name.
* `HeaderSet`: headers by canonical name, in the order in which the names were first seen.
* `HeaderSet.add`, `HeaderSet.delete`, `HeaderSet.values`, `HeaderSet.live`, `HeaderSet.first`: the
  operations; each takes a name in any form.
* `HeaderSet.addProcessed`: a header set by the proxy takes the place of all earlier values.
* `HeaderSet.merge target buffer`: folds a buffer of headers into a set.
* `HeaderSet.Arises hs`: the operations lead to `hs`.
-/

set_option autoImplicit false

namespace ProxyLog

/-! ## Headers -/

/-- What became of a value. -/
inductive HeaderState
  | received
  | added
  | modified
  | deleted
  deriving DecidableEq, Repr

def HeaderState.name : HeaderState → String
  | received => "Received"
  | added => "Added"
  | modified => "Modified"
  | deleted => "Deleted"

/-- A value and what became of it. -/
structure HeaderValue where
  text : String
  state : HeaderState
  deriving DecidableEq, Repr

def HeaderValue.isLive (v : HeaderValue) : Bool := v.state != .deleted

def HeaderValue.kill (v : HeaderValue) : HeaderValue := { v with state := .deleted }

/-- The values of one name. -/
structure Header where
  name : String
  values : List HeaderValue
  received : List HeaderValue
  deriving DecidableEq, Repr

namespace Header

def empty (name : String) : Header := ⟨name, [], []⟩

/-- Takes one more value. A modified one replaces all earlier ones, and so does any value of the
host header. -/
def add (h : Header) (text : String) (state : HeaderState) : Header :=
  { h with
    values := (if state = .modified ∨ h.name = hostName then [] else h.values) ++ [⟨text, state⟩]
    received := if state = .received then h.received ++ [⟨text, state⟩] else h.received }

/-- Marks every value as deleted, received ones too if asked. -/
def delete (h : Header) (alsoReceived : Bool) : Header :=
  { h with
    values := h.values.map (·.kill)
    received := if alsoReceived then h.received.map (·.kill) else h.received }

/-- The values after processing, or those that were received. -/
def list (h : Header) (received : Bool) : List HeaderValue := if received then h.received else h.values

end Header

/-! ## Sets -/

/-- Headers by canonical name. -/
structure HeaderSet where
  byName : OrderedMap String Header
  deriving DecidableEq, Repr

namespace HeaderSet

def empty : HeaderSet := ⟨.empty⟩

instance : Inhabited HeaderSet := ⟨empty⟩

def get? (hs : HeaderSet) (name : String) : Option Header := hs.byName.get? (canonicalName name)

def contains (hs : HeaderSet) (name : String) : Bool := (hs.get? name).isSome

/-- The headers in the order in which their names were first seen. -/
def headers (hs : HeaderSet) : List Header := hs.byName.values

/-- The names in that order. -/
def names (hs : HeaderSet) : List String := hs.byName.keys

def size (hs : HeaderSet) : Nat := hs.byName.size

def add (hs : HeaderSet) (name text : String) (state : HeaderState) : HeaderSet :=
  let key := canonicalName name
  ⟨hs.byName.alter key fun present => (present.getD (.empty key)).add text state⟩

def delete (hs : HeaderSet) (name : String) (alsoReceived : Bool) : HeaderSet :=
  ⟨hs.byName.modify (canonicalName name) (·.delete alsoReceived)⟩

/-- The values of a header, after processing or as received. -/
def values (hs : HeaderSet) (name : String) (received : Bool) : List HeaderValue :=
  match hs.get? name with
  | some h => h.list received
  | none => []

def live (hs : HeaderSet) (name : String) (received : Bool) : List HeaderValue :=
  (hs.values name received).filter (·.isLive)

/-- The first value of a header, deleted or not; empty when there is none. -/
def first (hs : HeaderSet) (name : String) (received : Bool) : String :=
  match hs.values name received with
  | v :: _ => v.text
  | [] => ""

/-! ## Processing -/

/-- Sets a header in processing: it is added if its first value is empty or absent, and modified
otherwise. -/
def addProcessed (hs : HeaderSet) (name text : String) : HeaderSet :=
  hs.add name text (if hs.first name false = "" then .added else .modified)

/-- Takes over one value of a buffered header. -/
def absorbValue (name : String) (hs : HeaderSet) (v : HeaderValue) : HeaderSet :=
  if v.state = .deleted then hs.delete name true else hs.add name v.text v.state

/-- Takes over one buffered header: first what was really received, then what became of it. -/
def absorb (hs : HeaderSet) (h : Header) : HeaderSet :=
  let received := h.received.filter fun v => v.state == .received
  h.values.foldl (absorbValue h.name) (received.foldl (fun t v => t.add h.name v.text .received) hs)

def merge (target buffer : HeaderSet) : HeaderSet := buffer.headers.foldl absorb target

/-- The sets that the operations lead to. -/
inductive Arises : HeaderSet → Prop
  | empty : Arises .empty
  | add {hs : HeaderSet} (h : Arises hs) (name text : String) (state : HeaderState) :
      Arises (hs.add name text state)
  | delete {hs : HeaderSet} (h : Arises hs) (name : String) (alsoReceived : Bool) :
      Arises (hs.delete name alsoReceived)
  | merge {target buffer : HeaderSet} (ht : Arises target) (hb : Arises buffer) :
      Arises (target.merge buffer)

/-- Setting a header in processing is one way to give it a value. -/
theorem Arises.addProcessed {hs : HeaderSet} (h : Arises hs) (name text : String) :
    Arises (hs.addProcessed name text) :=
  h.add name text _

/-! ## Look-up after an operation -/

theorem get?_empty (name : String) : empty.get? name = none := rfl

theorem get?_add_self (hs : HeaderSet) (name text : String) (state : HeaderState) :
    (hs.add name text state).get? name =
      some (((hs.get? name).getD (.empty (canonicalName name))).add text state) := by
  simp [add, get?]

theorem get?_add_of_ne (hs : HeaderSet) {name other : String} (h : canonicalName other ≠ canonicalName name)
    (text : String) (state : HeaderState) : (hs.add name text state).get? other = hs.get? other := by
  simp [add, get?, OrderedMap.get?_alter_of_ne _ h]

theorem get?_delete_self (hs : HeaderSet) (name : String) (alsoReceived : Bool) :
    (hs.delete name alsoReceived).get? name = (hs.get? name).map (·.delete alsoReceived) := by
  simp [delete, get?]

theorem get?_delete_of_ne (hs : HeaderSet) {name other : String}
    (h : canonicalName other ≠ canonicalName name) (alsoReceived : Bool) :
    (hs.delete name alsoReceived).get? other = hs.get? other := by
  simp [delete, get?, OrderedMap.get?_modify_of_ne _ h]

/-- Deleting touches no name and no place. -/
@[simp] theorem names_delete (hs : HeaderSet) (name : String) (alsoReceived : Bool) :
    (hs.delete name alsoReceived).names = hs.names := by
  simp [delete, names]

end HeaderSet

end ProxyLog
