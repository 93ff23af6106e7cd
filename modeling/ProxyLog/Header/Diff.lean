import ProxyLog.Header.Set
import ProxyLog.Text.Case

/-!
# What became of each header

The records of a transaction tell what each header was like when it came in and what it was made
into. Headers seen before the first call of the configuration came in with the message. After the call, a
header that was not there is added, one that was is modified, and one that is unset is deleted; a
header that was added and then unset leaves no trace. A status line starts the message over.

The proxy changes a few headers of a client request before any call. Their records are held back
and count as one header that came in: the place of a held header is reserved when its first record comes.

* `HeaderChange`: the value that came in, the final value and the state of one name.
* `DiffState`, `DiffState.step`: the reading of one record on one side.
* `headerChanges side records`: the changes of a side, by the place of each name's last change.
* `incomingHeaders`, `finalHeaders`, `findHeader`: views of the changes.
-/

set_option autoImplicit false

namespace ProxyLog

/-! ## Changes -/

/-- What became of the headers of one name. -/
structure HeaderChange where
  name : String
  incoming : String
  final : String
  state : HeaderState
  deriving DecidableEq, Repr

/-- The header was there before processing. -/
def HeaderChange.cameIn (c : HeaderChange) : Bool := c.state != .added

/-- A place in the history of changes, perhaps reserved for a name that is held back. -/
inductive Mark
  | change (c : HeaderChange)
  | reserved (name : String)
  deriving DecidableEq, Repr

/-- What is known after some records: the changes in order of time, the present state of each name,
the names that are held back, and whether processing goes on. -/
structure DiffState where
  history : List Mark
  known : OrderedMap String HeaderChange
  held : OrderedMap String HeaderChange
  processing : Bool
  deriving DecidableEq, Repr

namespace DiffState

/-- Nothing was read. -/
def start : DiffState := ⟨[], .empty, .empty, false⟩

def record (s : DiffState) (c : HeaderChange) : DiffState :=
  { s with history := s.history ++ [.change c], known := s.known.insert c.name c }

/-- Holds a change back, in the place reserved for its name. -/
def hold (s : DiffState) (c : HeaderChange) : DiffState :=
  { s with
    history := if s.held.contains c.name then s.history else s.history ++ [.reserved c.name]
    held := s.held.insert c.name c }

/-- The change that belongs in a place, if it is known. -/
def fill (held : OrderedMap String HeaderChange) : Mark → Mark
  | .change c => .change c
  | .reserved name =>
    match held.get? name with
    | some c => .change c
    | none => .reserved name

/-- Puts all that is held back in its places. -/
def flush (s : DiffState) : DiffState :=
  { s with
    history := s.history.map (fill s.held)
    known := s.held.toList.foldl (fun known p => known.insert p.1 p.2) s.known
    held := .empty }

/-- A header of a name that the proxy manages comes in before processing and was not seen before. -/
def holdsBack (s : DiffState) (h : HeaderLine) : Bool :=
  !s.processing && !s.known.contains h.name && h.isManaged

def onHeader (s : DiffState) (h : HeaderLine) : DiffState :=
  if s.holdsBack h then
    let incoming := ((s.held.get? h.name).map (·.incoming)).getD h.value
    s.hold ⟨h.name, incoming, h.value, .received⟩
  else
    let previous := s.known.get? h.name
    let incoming := (previous.map (·.incoming)).getD h.value
    let state :=
      if !s.processing then .received
      else if previous.any (·.cameIn) then .modified
      else .added
    s.record ⟨h.name, incoming, h.value, state⟩

def onUnset (s : DiffState) (h : HeaderLine) : DiffState :=
  if s.holdsBack h then s.hold ⟨h.name, h.value, h.value, .deleted⟩
  else
    match s.known.get? h.name with
    | none => s
    | some previous =>
      if previous.cameIn then s.record ⟨h.name, previous.incoming, h.value, .deleted⟩
      else { s with known := s.known.erase h.name }

/-- Reads a call that opens the headers to processing. -/
def onCall (s : DiffState) : DiffState :=
  if s.processing then s else { s.flush with processing := true }

end DiffState

/-- The calls that open the headers of a response. -/
def responseCalls : List String := ["DELIVER", "BACKEND_RESPONSE"]

/-- A call opens the headers of a side: any call those of the request, two of them those of the
response. -/
def opensSide (call : String) : Side → Bool
  | .request => true
  | .response => responseCalls.contains call

/-- Reads one record on one side. -/
def DiffState.step (side : Side) (s : DiffState) (r : Record) : DiffState :=
  match r.payload with
  | .vclCall => if opensSide r.value side then s.onCall else s
  | .status _ => { s with processing := false }
  | .header h => if h.direction.side? = some side then s.onHeader h else s
  | .unset h => if h.direction.side? = some side then s.onUnset h else s
  | _ => s

/-! ## The result -/

/-- The last change of each name that is still known. -/
def lastChanges (known : OrderedMap String HeaderChange) : List Mark → List HeaderChange
  | [] => []
  | .reserved _ :: rest => lastChanges known rest
  | .change c :: rest =>
    let later := rest.any fun
      | .change d => d.name == c.name
      | .reserved _ => false
    if known.contains c.name && !later then c :: lastChanges known rest else lastChanges known rest

/-- What became of the headers of one side. -/
def headerChanges (side : Side) (records : List Record) : List HeaderChange :=
  let s := (records.foldl (DiffState.step side) .start).flush
  lastChanges s.known s.history

/-! ## Views -/

/-- A header with one value. -/
structure HeaderPair where
  name : String
  value : String
  deriving DecidableEq, Repr

/-- The headers as they came in. -/
def incomingHeaders (changes : List HeaderChange) : List HeaderPair :=
  (changes.filter (·.cameIn)).map fun c => ⟨c.name, c.incoming⟩

/-- The headers after processing, without the deleted ones. -/
def finalHeaders (changes : List HeaderChange) : List HeaderPair :=
  (changes.filter fun c => c.state != .deleted).map fun c => ⟨c.name, c.final⟩

/-- The first header of a name in one of the views, with or without regard to case. -/
def findHeader (changes : List HeaderChange) (name : String) (incoming ignoreCase : Bool) :
    Option HeaderPair :=
  (if incoming then incomingHeaders changes else finalHeaders changes).find? fun h =>
    h.name == name || (ignoreCase && Text.toLower h.name == Text.toLower name)

end ProxyLog
