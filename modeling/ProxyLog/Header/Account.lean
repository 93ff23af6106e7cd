import ProxyLog.Header.Diff

/-!
# The account of one name

What became of the headers of one name can be told from the events of that name alone: those before
processing and those after it began.

* `HeaderEvent`: a header that is set or unset; `headerEvents side name rs` are those of one name.
* `setValues`, `unsetValues`: the values of such headers, in order.
* `HeaderEvent.account name before after`: what became of the name.
* `bearsOn side p r`: the record matters for the headers of a side whose names pass `p`.

The name came in if a header of it was set before processing, or if it is a held one with any event
there. It then has the value of its origin, which is the last held unset or else the first set
header, and ends with its last event. A name that did not come in is added by the headers set after
its last unset, and leaves no trace when there are none.
-/

set_option autoImplicit false

namespace ProxyLog

/-! ## Events -/

/-- A header that is set or unset. -/
structure HeaderEvent where
  line : HeaderLine
  isUnset : Bool
  deriving DecidableEq, Repr

/-- The header that a record sets or unsets. -/
def Record.headerEvent? (r : Record) : Option HeaderEvent :=
  match r.payload with
  | .header h => some ⟨h, false⟩
  | .unset h => some ⟨h, true⟩
  | _ => none

/-- The event is one of a name on a side. -/
def HeaderEvent.isOf (e : HeaderEvent) (side : Side) (name : String) : Bool :=
  e.line.direction.side? == some side && e.line.name == name

/-- The events of a name on a side, in order. -/
def headerEvents (side : Side) (name : String) (rs : List Record) : List HeaderEvent :=
  (rs.filterMap (·.headerEvent?)).filter (·.isOf side name)

/-- The values of the headers of a name that are set. -/
def setValues (side : Side) (name : String) (rs : List Record) : List String :=
  ((headerEvents side name rs).filter (!·.isUnset)).map (·.line.value)

/-- The values of the headers of a name that are unset. -/
def unsetValues (side : Side) (name : String) (rs : List Record) : List String :=
  ((headerEvents side name rs).filter (·.isUnset)).map (·.line.value)

theorem headerEvents_append (side : Side) (name : String) (front back : List Record) :
    headerEvents side name (front ++ back) = headerEvents side name front ++ headerEvents side name back := by
  simp [headerEvents]

theorem setValues_append (side : Side) (name : String) (front back : List Record) :
    setValues side name (front ++ back) = setValues side name front ++ setValues side name back := by
  simp [setValues, headerEvents_append]

theorem unsetValues_append (side : Side) (name : String) (front back : List Record) :
    unsetValues side name (front ++ back) = unsetValues side name front ++ unsetValues side name back := by
  simp [unsetValues, headerEvents_append]

namespace HeaderEvent

/-! ## What became of a name -/

/-- The event that tells what the header was like when it came in. -/
def origin? (before : List HeaderEvent) : Option HeaderEvent :=
  (before.reverse.find? fun e => e.isUnset && e.line.isManaged).or (before.find? (!·.isUnset))

/-- What became of a name that came in. -/
def incomingAccount (name : String) (origin : HeaderEvent) (before after : List HeaderEvent) : HeaderChange :=
  let last := (before ++ after).getLast?.getD origin
  let state : HeaderState :=
    if last.isUnset then .deleted else if after.isEmpty then .received else .modified
  ⟨name, origin.line.value, last.line.value, state⟩

/-- What became of a name that did not come in. -/
def addedAccount (name : String) (after : List HeaderEvent) : Option HeaderChange :=
  match (after.reverse.takeWhile (!·.isUnset)).reverse with
  | [] => none
  | first :: rest => some ⟨name, first.line.value, (rest.getLast?.getD first).line.value, .added⟩

/-- What became of a name. -/
def account (name : String) (before after : List HeaderEvent) : Option HeaderChange :=
  match origin? before with
  | some origin => some (incomingAccount name origin before after)
  | none => addedAccount name after

end HeaderEvent

/-! ## Restriction -/

/-- The record matters for what became of the headers of a side whose names pass a test. -/
def bearsOn (side : Side) (p : String → Bool) (r : Record) : Bool :=
  match r.payload with
  | .vclCall | .status _ => true
  | .header h | .unset h => h.direction.side? == some side && p h.name
  | _ => false

/-- A record that matters for no name changes nothing. -/
theorem DiffState.step_of_not_bearsOn {side : Side} {r : Record} (h : bearsOn side (fun _ => true) r = false)
    (s : DiffState) : s.step side r = s := by
  unfold bearsOn at h
  unfold DiffState.step
  split <;> simp_all

end ProxyLog
