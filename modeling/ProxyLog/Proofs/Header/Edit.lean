import Mathlib.Data.List.Infix
import Mathlib.Logic.Function.Basic
import ProxyLog.Proofs.Header.Received

/-!
# Editing header sets

Header sets are edited one value or one name at a time, and one set can be merged into another. Whatever edits were
made, the sets stay regular.

* `HeaderSet.Regular hs`: each header stands under its own canonical name and has a value; what it received is marked
  as received or deleted; a modified value is the first one; a host header has one value.
* `HeaderEdit`, `PairEdit`: the edits of one set, and of two sets next to each other; `editAll edits` are the two
  sets after some edits, both empty at first.
* `Regular.apply`, `regular_editAll`: an edit keeps sets regular, and so do all.
* `HeaderSet.EditedAt old new name`: only the headers of one name differ, and no name has changed its place.
* `receivedTexts_apply`, `receivedTexts_editAll`: what a name received stays, up to the next clearing of its set.
* `editAll_regular`: all of this for any two sets.
-/

set_option autoImplicit false

namespace ProxyLog

/-! ## Regular headers -/

namespace Header
variable {h : Header}

structure Regular (h : Header) : Prop where
  nonempty : h.values ≠ []
  received : ∀ v ∈ h.received, v.state = .received ∨ v.state = .deleted
  modified : ∀ v ∈ h.values.tail, v.state ≠ .modified
  host : h.name = hostName → h.values.length = 1

-- A header without values is not regular, but it is what the first value is added to.
theorem regular_add (hr : ∀ v ∈ h.received, v.state = .received ∨ v.state = .deleted)
    (hm : ∀ v ∈ h.values.tail, v.state ≠ .modified) (text : String) (state : HeaderState) :
    (h.add text state).Regular where
  nonempty := by simp [add]
  received := by
    intro v hv
    rcases mem_received_add hv with hv | ⟨hstate, rfl⟩
    · exact hr v hv
    · exact Or.inl hstate
  modified := by
    intro v hv
    simp only [add] at hv
    split at hv
    · cases hv
    · next hstate =>
      rw [not_or] at hstate
      cases hvalues : h.values with
      | nil =>
        rw [hvalues] at hv
        cases hv
      | cons w ws =>
        rw [hvalues, List.cons_append, List.tail_cons] at hv
        rcases List.mem_append.mp hv with hv | hv
        · exact hm v (by rw [hvalues]; exact hv)
        · rw [List.mem_singleton.mp hv]
          exact hstate.1
  host := by
    intro hname
    have hname : h.name = hostName := hname
    simp [add, hname]

theorem Regular.delete (h' : h.Regular) (alsoReceived : Bool) : (h.delete alsoReceived).Regular where
  nonempty := by
    show h.values.map _ ≠ []
    rw [ne_eq, List.map_eq_nil_iff]
    exact h'.nonempty
  received := by
    intro v hv
    simp only [Header.delete] at hv
    split at hv
    · obtain ⟨u, -, rfl⟩ := List.mem_map.mp hv
      exact Or.inr rfl
    · exact h'.received v hv
  modified := by
    intro v hv
    simp only [Header.delete, ← List.map_tail] at hv
    obtain ⟨u, -, rfl⟩ := List.mem_map.mp hv
    simp [HeaderValue.kill]
  host := by
    intro hname
    show (h.values.map _).length = 1
    rw [List.length_map]
    exact h'.host hname

end Header

/-! ## Regular sets -/

namespace HeaderSet
variable {hs target : HeaderSet} {name : String}

structure Regular (hs : HeaderSet) : Prop where
  wellFormed : hs.WellFormed
  headers : hs.byName.All fun _ h => h.Regular

theorem regular_empty : empty.Regular := ⟨wellFormed_empty, OrderedMap.all_empty _⟩

theorem Regular.add (h : hs.Regular) (name text : String) (state : HeaderState) : (hs.add name text state).Regular := by
  refine ⟨h.wellFormed.add name text state, h.headers.alter ?_⟩
  cases hg : hs.byName.get? (canonicalName name) with
  | none =>
    refine Header.regular_add ?_ ?_ text state
    · intro v hv
      cases hv
    · intro v hv
      cases hv
  | some g =>
    have hg := h.headers.get? hg
    exact Header.regular_add hg.received hg.modified text state

theorem Regular.delete (h : hs.Regular) (name : String) (alsoReceived : Bool) : (hs.delete name alsoReceived).Regular :=
  ⟨h.wellFormed.delete name alsoReceived, h.headers.modify _ fun _ hg => hg.delete alsoReceived⟩

theorem Regular.merge (h : target.Regular) (buffer : HeaderSet) : (target.merge buffer).Regular :=
  merge_induct (fun _ name text state h => h.add name text state) (fun _ name h => h.delete name true) h buffer

/-! ## What an edit leaves alone -/

structure EditedAt (old new : HeaderSet) (name : String) : Prop where
  other : ∀ other, canonicalName other ≠ canonicalName name → new.get? other = old.get? other
  order : old.names <+: new.names

theorem editedAt_add (hs : HeaderSet) (name text : String) (state : HeaderState) :
    hs.EditedAt (hs.add name text state) name where
  other := fun _ h => get?_add_of_ne hs h text state
  order := by
    show hs.byName.keys <+: (hs.byName.alter _ _).keys
    rw [OrderedMap.keys_alter]
    split
    · exact List.prefix_refl _
    · exact List.prefix_append _ _

theorem editedAt_delete (hs : HeaderSet) (name : String) (alsoReceived : Bool) :
    hs.EditedAt (hs.delete name alsoReceived) name where
  other := fun _ h => get?_delete_of_ne hs h alsoReceived
  order := by
    rw [names_delete]

theorem receivedTexts_prefix_add (hs : HeaderSet) (name other text : String) (state : HeaderState) :
    hs.receivedTexts name <+: (hs.add other text state).receivedTexts name := by
  by_cases hsame : canonicalName name = canonicalName other
  · rw [receivedTexts_congr_name hsame, receivedTexts_congr_name hsame, receivedTexts_add_self]
    exact List.prefix_append _ _
  · rw [receivedTexts_congr (get?_add_of_ne hs hsame text state)]

theorem receivedTexts_prefix_merge (target buffer : HeaderSet) (name : String) :
    target.receivedTexts name <+: (target.merge buffer).receivedTexts name := by
  refine merge_induct (P := fun t => target.receivedTexts name <+: t.receivedTexts name) ?_ ?_ (List.prefix_refl _) buffer
  · intro t other text state ht
    exact ht.trans (receivedTexts_prefix_add t name other text state)
  · intro t other ht
    rw [receivedTexts_delete]
    exact ht

end HeaderSet

/-! ## Edits of one set -/

inductive HeaderEdit
  | add (name text : String) (state : HeaderState)
  | process (name text : String)
  | delete (name : String) (alsoReceived : Bool)
  | clear
  deriving DecidableEq, Repr

namespace HeaderEdit

def apply (hs : HeaderSet) : HeaderEdit → HeaderSet
  | add name text state => hs.add name text state
  | process name text => hs.addProcessed name text
  | delete name alsoReceived => hs.delete name alsoReceived
  | clear => .empty

/-- The name that is edited; clearing a set is about all names. -/
def name? : HeaderEdit → Option String
  | add name _ _ | process name _ | delete name _ => some name
  | clear => none

variable {hs : HeaderSet} {e : HeaderEdit} {name : String}

theorem regular_apply (h : hs.Regular) (e : HeaderEdit) : (e.apply hs).Regular := by
  cases e with
  | add name text state => exact h.add name text state
  | process name text => exact h.add name text _
  | delete name alsoReceived => exact h.delete name alsoReceived
  | clear => exact HeaderSet.regular_empty

theorem editedAt_apply (h : e.name? = some name) (hs : HeaderSet) : hs.EditedAt (e.apply hs) name := by
  cases e with
  | add | process =>
    obtain rfl := Option.some.inj h
    exact hs.editedAt_add _ _ _
  | delete =>
    obtain rfl := Option.some.inj h
    exact hs.editedAt_delete _ _
  | clear => cases h

theorem receivedTexts_apply (h : e ≠ .clear) (hs : HeaderSet) (name : String) :
    hs.receivedTexts name <+: (e.apply hs).receivedTexts name := by
  cases e with
  | add other text state => exact hs.receivedTexts_prefix_add name other text state
  | process other text => exact hs.receivedTexts_prefix_add name other text _
  | delete other alsoReceived =>
    show _ <+: (hs.delete other alsoReceived).receivedTexts name
    rw [HeaderSet.receivedTexts_delete]
  | clear => exact absurd rfl h

end HeaderEdit

/-! ## Edits of two sets -/

inductive Place
  | main
  | buffer
  deriving DecidableEq, Repr

def Place.other : Place → Place
  | main => buffer
  | buffer => main

inductive PairEdit
  | edit (place : Place) (e : HeaderEdit)
  /-- The other set is merged into this one and cleared. -/
  | merge (target : Place)
  deriving DecidableEq, Repr

namespace PairEdit

def apply (pair : Place → HeaderSet) : PairEdit → Place → HeaderSet
  | edit place e => Function.update pair place (e.apply (pair place))
  | merge target => fun place => if place = target then (pair target).merge (pair target.other) else .empty

/-- The edit leaves nothing in the set. -/
def clears (place : Place) : PairEdit → Bool
  | edit edited e => edited == place && e == .clear
  | merge target => target != place

variable {pair : Place → HeaderSet} {place : Place} {e : PairEdit}

theorem apply_edit (pair : Place → HeaderSet) (edited place : Place) (e : HeaderEdit) :
    (edit edited e).apply pair place = if place = edited then e.apply (pair place) else pair place := by
  by_cases hplace : place = edited
  · rw [if_pos hplace, hplace]
    exact Function.update_self ..
  · rw [if_neg hplace]
    exact Function.update_of_ne hplace ..

theorem regular_apply (h : ∀ place, (pair place).Regular) (e : PairEdit) (place : Place) : (e.apply pair place).Regular := by
  cases e with
  | edit edited e =>
    rw [apply_edit]
    split
    · exact e.regular_apply (h place)
    · exact h place
  | merge target =>
    show HeaderSet.Regular (if place = target then _ else _)
    split
    · exact (h target).merge _
    · exact HeaderSet.regular_empty

theorem receivedTexts_apply (h : e.clears place = false) (pair : Place → HeaderSet) (name : String) :
    (pair place).receivedTexts name <+: (e.apply pair place).receivedTexts name := by
  cases e with
  | edit edited e =>
    rw [apply_edit]
    split
    · next hplace =>
      have hclear : e ≠ .clear := by simpa [clears, hplace] using h
      exact HeaderEdit.receivedTexts_apply hclear (pair place) name
    · exact List.prefix_refl _
  | merge target =>
    obtain rfl : target = place := by simpa [clears] using h
    show _ <+: HeaderSet.receivedTexts (if target = target then _ else _) name
    rw [if_pos rfl]
    exact HeaderSet.receivedTexts_prefix_merge _ _ name

end PairEdit

/-! ## Any edits -/

/-- The two sets after some edits. -/
def editAll (edits : List PairEdit) : Place → HeaderSet := edits.foldl PairEdit.apply fun _ => .empty

theorem editAll_append (earlier later : List PairEdit) :
    editAll (earlier ++ later) = later.foldl PairEdit.apply (editAll earlier) :=
  List.foldl_append

theorem regular_editAll (edits : List PairEdit) (place : Place) : (editAll edits place).Regular := by
  induction edits using List.reverseRecOn generalizing place with
  | nil => exact HeaderSet.regular_empty
  | append_singleton edits e ih =>
    rw [editAll_append]
    exact e.regular_apply ih place

theorem receivedTexts_foldl {later : List PairEdit} {place : Place} (h : ∀ e ∈ later, e.clears place = false)
    (pair : Place → HeaderSet) (name : String) :
    (pair place).receivedTexts name <+: (later.foldl PairEdit.apply pair place).receivedTexts name := by
  induction later generalizing pair with
  | nil => exact List.prefix_refl _
  | cons e later ih =>
    have hfirst := PairEdit.receivedTexts_apply (h e List.mem_cons_self) pair name
    exact hfirst.trans (ih (fun e he => h e (List.mem_cons_of_mem _ he)) (e.apply pair))

/-- Whatever values are added, processed and deleted in two header sets, and however the sets are cleared and merged,
both stay regular. An edit of one name leaves the headers of all other names as they are and moves no name, and until
a set is cleared, what its names received is only ever added to. -/
theorem editAll_regular (edits : List PairEdit) (place : Place) :
    (editAll edits place).Regular ∧
      (∀ (e : HeaderEdit) (name : String), e.name? = some name →
        (editAll edits place).EditedAt (editAll (edits ++ [.edit place e]) place) name) ∧
      ∀ later : List PairEdit, (∀ e ∈ later, e.clears place = false) →
        ∀ name, (editAll edits place).receivedTexts name <+: (editAll (edits ++ later) place).receivedTexts name := by
  refine ⟨regular_editAll edits place, ?_, ?_⟩
  · intro e name hname
    rw [editAll_append]
    show (editAll edits place).EditedAt (Function.update (editAll edits) place _ place) name
    rw [Function.update_self]
    exact HeaderEdit.editedAt_apply hname _
  · intro later hlater name
    rw [editAll_append]
    exact receivedTexts_foldl hlater (editAll edits) name

/-- A host that is set anew, and a header that is held back and rewritten. -/
def proxiedEdits : List PairEdit :=
  [.edit .main (.add "host" "a" .received), .edit .main (.process "HOST" "b"),
   .edit .buffer (.add "via" "x" .received), .edit .buffer (.delete "via" false), .edit .buffer (.process "Via" "y")]

/-- The header that was held back is merged and deleted, and another one is held back. -/
def mergedEdits : List PairEdit :=
  [.merge .main, .edit .main (.delete "VIA" true), .edit .buffer (.add "age" "1" .added)]

theorem editAll_regular_proxied :
    (editAll proxiedEdits .main).headers = [⟨"Host", [⟨"b", .modified⟩], [⟨"a", .received⟩]⟩] ∧
      (editAll proxiedEdits .buffer).headers = [⟨"Via", [⟨"y", .modified⟩], [⟨"x", .received⟩]⟩] ∧
      (editAll (proxiedEdits ++ mergedEdits) .main).headers =
        [⟨"Host", [⟨"b", .modified⟩], [⟨"a", .received⟩]⟩, ⟨"Via", [⟨"y", .deleted⟩], [⟨"x", .deleted⟩]⟩] ∧
      (editAll (proxiedEdits ++ mergedEdits) .buffer).headers = [⟨"Age", [⟨"1", .added⟩], []⟩] ∧
      (editAll proxiedEdits .main).Regular ∧
      (editAll proxiedEdits .main).EditedAt (editAll (proxiedEdits ++ [.edit .main (.process "host" "c")]) .main) "host" ∧
      ∀ name, (editAll proxiedEdits .main).receivedTexts name <+:
        (editAll (proxiedEdits ++ mergedEdits) .main).receivedTexts name := by
  obtain ⟨hregular, hedited, hreceived⟩ := editAll_regular proxiedEdits .main
  refine ⟨?_, ?_, ?_, ?_, hregular, hedited _ _ rfl, hreceived mergedEdits ?_⟩ <;> decide +kernel

end ProxyLog
