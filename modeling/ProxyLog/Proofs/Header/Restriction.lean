import ProxyLog.Header.Account
import ProxyLog.Proofs.OrderedMap

/-!
# Each header name for itself

What becomes of some names can be read off the records about these names alone. The part of a
reading that is about the names passing a test is itself a reading, of the records that bear on
them: the history and the held changes of other names leave no trace in it.

* `DiffState.Named s`: every change in the tables stands under its own name.
* `DiffState.restrict p s`: what a reading knows of the names that pass `p`.
* `restrict_step`: a record is read by the part as by the whole, or else changes nothing in it.
* `changes_restrict`: the changes of a part are the changes of its names.
* `headerChanges_filter_bearsOn`: the changes of some names are those of the records about them.
-/

set_option autoImplicit false

namespace ProxyLog

/-- The name that a mark is about. -/
def Mark.name : Mark → String
  | .change c => c.name
  | .reserved name => name

@[simp] theorem Mark.name_change (c : HeaderChange) : (Mark.change c).name = c.name := rfl

@[simp] theorem Mark.name_reserved (name : String) : (Mark.reserved name).name = name := rfl

namespace DiffState

/-! ## Names in the tables -/

/-- Every change in the tables stands under its own name. -/
structure Named (s : DiffState) : Prop where
  known : s.known.All fun name c => c.name = name
  held : s.held.All fun name c => c.name = name

theorem named_start : start.Named := ⟨OrderedMap.all_empty _, OrderedMap.all_empty _⟩

theorem Named.record {s : DiffState} (hs : s.Named) (c : HeaderChange) : (s.record c).Named :=
  ⟨hs.known.insert rfl, hs.held⟩

theorem Named.hold {s : DiffState} (hs : s.Named) (c : HeaderChange) : (s.hold c).Named :=
  ⟨hs.known, hs.held.insert rfl⟩

theorem Named.flush {s : DiffState} (hs : s.Named) : s.flush.Named :=
  ⟨hs.known.insertAll hs.held, OrderedMap.all_empty _⟩

theorem Named.onHeader {s : DiffState} (hs : s.Named) (h : HeaderLine) : (s.onHeader h).Named := by
  unfold DiffState.onHeader
  split
  · exact hs.hold _
  · exact hs.record _

theorem Named.onUnset {s : DiffState} (hs : s.Named) (h : HeaderLine) : (s.onUnset h).Named := by
  unfold DiffState.onUnset
  split
  · exact hs.hold _
  · split
    · exact hs
    · split
      · exact hs.record _
      · exact ⟨hs.known.erase _, hs.held⟩

theorem Named.onCall {s : DiffState} (hs : s.Named) : s.onCall.Named := by
  unfold DiffState.onCall
  split
  · exact hs
  · exact ⟨hs.flush.known, hs.flush.held⟩

theorem Named.step {s : DiffState} (hs : s.Named) (side : Side) (r : Record) : (s.step side r).Named := by
  unfold DiffState.step
  split
  · split
    · exact hs.onCall
    · exact hs
  · exact ⟨hs.known, hs.held⟩
  · split
    · exact hs.onHeader _
    · exact hs
  · split
    · exact hs.onUnset _
    · exact hs
  · exact hs

theorem Named.foldl {s : DiffState} (hs : s.Named) (side : Side) (rs : List Record) :
    (rs.foldl (DiffState.step side) s).Named := by
  induction rs generalizing s with
  | nil => exact hs
  | cons r rs ih => exact ih (hs.step side r)

/-! ## The part of some names -/

/-- What a reading knows of the names that pass a test. -/
def restrict (p : String → Bool) (s : DiffState) : DiffState where
  history := s.history.filter fun m => p m.name
  known := s.known.restrict p
  held := s.held.restrict p
  processing := s.processing

variable {p : String → Bool}

theorem restrict_record_of_pos {c : HeaderChange} (hc : p c.name = true) (s : DiffState) :
    (s.record c).restrict p = (s.restrict p).record c := by
  simp [record, restrict, hc, OrderedMap.restrict_insert_of_pos hc]

theorem restrict_record_of_neg {c : HeaderChange} (hc : p c.name = false) (s : DiffState) :
    (s.record c).restrict p = s.restrict p := by
  simp [record, restrict, hc, OrderedMap.restrict_insert_of_neg hc]

theorem restrict_hold_of_pos {c : HeaderChange} (hc : p c.name = true) (s : DiffState) :
    (s.hold c).restrict p = (s.restrict p).hold c := by
  have hheld := OrderedMap.contains_restrict_of_pos hc s.held
  by_cases h : s.held.contains c.name = true <;>
    simp [hold, restrict, hc, hheld, h, OrderedMap.restrict_insert_of_pos hc]

theorem restrict_hold_of_neg {c : HeaderChange} (hc : p c.name = false) (s : DiffState) :
    (s.hold c).restrict p = s.restrict p := by
  by_cases h : s.held.contains c.name = true <;>
    simp [hold, restrict, hc, h, OrderedMap.restrict_insert_of_neg hc]

theorem name_fill {held : OrderedMap String HeaderChange} (h : held.All fun name c => c.name = name)
    (m : Mark) : (fill held m).name = m.name := by
  cases m with
  | change c => rfl
  | reserved name =>
    cases hc : held.get? name with
    | none => simp [fill, hc]
    | some c => simpa [fill, hc] using h.get? hc

theorem fill_restrict (held : OrderedMap String HeaderChange) {m : Mark} (hm : p m.name = true) :
    fill (held.restrict p) m = fill held m := by
  cases m with
  | change c => rfl
  | reserved name =>
    have hn : p name = true := hm
    simp [fill, OrderedMap.get?_restrict, hn]

/-- A flush fills the places of a part with the changes of the part. -/
theorem restrict_flush {s : DiffState} (hs : s.Named) : s.flush.restrict p = (s.restrict p).flush := by
  have hhistory : (s.history.map (fill s.held)).filter (fun m => p m.name) =
      (s.history.filter fun m => p m.name).map (fill (s.held.restrict p)) := by
    rw [List.filter_map]
    have hname : (fun m => p m.name) ∘ fill s.held = fun m => p m.name := by
      funext m
      rw [Function.comp_apply, name_fill hs.held]
    rw [hname]
    refine List.map_congr_left fun m hm => ?_
    exact (fill_restrict s.held (List.mem_filter.mp hm).2).symm
  have hknown := OrderedMap.restrict_insertAll s.known p s.held.toList
  simp only [flush, restrict, hhistory]
  congr 1

theorem restrict_onCall {s : DiffState} (hs : s.Named) : s.onCall.restrict p = (s.restrict p).onCall := by
  unfold onCall
  cases h : s.processing with
  | true => simp [restrict, h]
  | false =>
    have hf := restrict_flush (p := p) hs
    have hp : (s.restrict p).processing = false := h
    rw [if_neg (by simp), if_neg (by simp [hp]), ← hf]
    rfl

theorem holdsBack_restrict {h : HeaderLine} (hn : p h.name = true) (s : DiffState) :
    (s.restrict p).holdsBack h = s.holdsBack h := by
  simp only [holdsBack, restrict, OrderedMap.contains_restrict_of_pos hn]

theorem restrict_onHeader_of_pos {h : HeaderLine} (hn : p h.name = true) (s : DiffState) :
    (s.onHeader h).restrict p = (s.restrict p).onHeader h := by
  have hknown : (s.restrict p).known.get? h.name = s.known.get? h.name := by
    simp [restrict, OrderedMap.get?_restrict, hn]
  have hheld : (s.restrict p).held.get? h.name = s.held.get? h.name := by
    simp [restrict, OrderedMap.get?_restrict, hn]
  unfold onHeader
  rw [holdsBack_restrict hn, hknown, hheld]
  split
  · exact restrict_hold_of_pos hn s
  · exact restrict_record_of_pos hn s

theorem restrict_onHeader_of_neg {h : HeaderLine} (hn : p h.name = false) (s : DiffState) :
    (s.onHeader h).restrict p = s.restrict p := by
  unfold onHeader
  split
  · exact restrict_hold_of_neg hn s
  · exact restrict_record_of_neg hn s

theorem restrict_onUnset_of_pos {h : HeaderLine} (hn : p h.name = true) (s : DiffState) :
    (s.onUnset h).restrict p = (s.restrict p).onUnset h := by
  have hknown : (s.restrict p).known.get? h.name = s.known.get? h.name := by
    simp [restrict, OrderedMap.get?_restrict, hn]
  unfold onUnset
  rw [holdsBack_restrict hn, hknown]
  split
  · exact restrict_hold_of_pos hn s
  · cases hk : s.known.get? h.name with
    | none => rfl
    | some previous =>
      simp only
      split
      · exact restrict_record_of_pos hn s
      · simp only [restrict, OrderedMap.restrict_erase]

theorem restrict_onUnset_of_neg {h : HeaderLine} (hn : p h.name = false) (s : DiffState) :
    (s.onUnset h).restrict p = s.restrict p := by
  unfold onUnset
  split
  · exact restrict_hold_of_neg hn s
  · split
    · rfl
    · split
      · exact restrict_record_of_neg hn s
      · simp only [restrict, OrderedMap.restrict_erase_of_neg hn]

/-! ## Steps and runs of a part -/

/-- A record that bears on a part is read by the part as by the whole; any other leaves it as it is. -/
theorem restrict_step {s : DiffState} (hs : s.Named) (side : Side) (r : Record) :
    (s.step side r).restrict p = if bearsOn side p r then (s.restrict p).step side r else s.restrict p := by
  cases hr : r.payload with
  | vclCall =>
    simp only [step, bearsOn, hr, if_true]
    split
    · exact restrict_onCall hs
    · rfl
  | status code =>
    simp only [step, bearsOn, hr, if_true]
    rfl
  | header h =>
    simp only [step, bearsOn, hr]
    by_cases hside : h.direction.side? = some side
    · cases hn : p h.name with
      | true => simpa [hside] using restrict_onHeader_of_pos hn s
      | false => simpa [hside] using restrict_onHeader_of_neg hn s
    · simp [hside]
  | unset h =>
    simp only [step, bearsOn, hr]
    by_cases hside : h.direction.side? = some side
    · cases hn : p h.name with
      | true => simpa [hside] using restrict_onUnset_of_pos hn s
      | false => simpa [hside] using restrict_onUnset_of_neg hn s
    · simp [hside]
  | _ => simp [step, bearsOn, hr]

theorem restrict_foldl {s : DiffState} (hs : s.Named) (side : Side) (rs : List Record) :
    (rs.foldl (step side) s).restrict p = (rs.filter (bearsOn side p)).foldl (step side) (s.restrict p) := by
  induction rs generalizing s with
  | nil => rfl
  | cons r rs ih =>
    have h := ih (hs.step side r)
    rw [restrict_step hs] at h
    cases hb : bearsOn side p r with
    | true =>
      rw [hb, if_pos rfl] at h
      simpa [List.filter_cons, hb] using h
    | false =>
      rw [hb, if_neg (by simp)] at h
      simpa [List.filter_cons, hb] using h

end DiffState

/-! ## The result of a part -/

/-- The mark is a change of the name. -/
def Mark.changes (name : String) : Mark → Bool
  | .change d => d.name == name
  | .reserved _ => false

theorem lastChanges_change (known : OrderedMap String HeaderChange) (c : HeaderChange) (rest : List Mark) :
    lastChanges known (.change c :: rest) =
      if known.contains c.name && !rest.any (Mark.changes c.name) then c :: lastChanges known rest
      else lastChanges known rest :=
  rfl

/-- Whether a name is changed later can be told within any part that has the name. -/
theorem any_changes_filter {p : String → Bool} {name : String} (hn : p name = true) (history : List Mark) :
    (history.filter fun m => p m.name).any (Mark.changes name) = history.any (Mark.changes name) := by
  rw [List.any_filter]
  congr 1
  funext m
  cases m with
  | reserved other => simp [Mark.changes]
  | change d =>
    by_cases hd : d.name = name
    · simp [hd, hn]
    · simp [Mark.changes, hd]

theorem lastChanges_restrict (p : String → Bool) (known : OrderedMap String HeaderChange)
    (history : List Mark) :
    lastChanges (known.restrict p) (history.filter fun m => p m.name) =
      (lastChanges known history).filter fun c => p c.name := by
  induction history with
  | nil => rfl
  | cons m rest ih =>
    cases m with
    | reserved name => cases hn : p name <;> simpa [hn, lastChanges] using ih
    | change c =>
      cases hc : p c.name with
      | true =>
        rw [List.filter_cons_of_pos (by simpa using hc), lastChanges_change, lastChanges_change,
          OrderedMap.contains_restrict_of_pos hc, any_changes_filter hc, ih]
        split
        · rw [List.filter_cons_of_pos (by simpa using hc)]
        · rfl
      | false =>
        rw [List.filter_cons_of_neg (by simp [hc]), lastChanges_change, ih]
        split
        · rw [List.filter_cons_of_neg (by simp [hc])]
        · rfl

namespace DiffState

/-- The changes that are told when nothing more is read. -/
def changes (s : DiffState) : List HeaderChange := lastChanges s.flush.known s.flush.history

theorem changes_restrict {s : DiffState} (hs : s.Named) (p : String → Bool) :
    (s.restrict p).changes = s.changes.filter fun c => p c.name := by
  have hflush := restrict_flush (p := p) hs
  unfold changes
  rw [← hflush]
  exact lastChanges_restrict p _ _

end DiffState

/-- Records that bear on none of the chosen names can be left out without a trace: the changes of
the rest are the changes of these names, in the same order. -/
theorem headerChanges_filter_bearsOn (side : Side) (p : String → Bool) (rs : List Record) :
    headerChanges side (rs.filter (bearsOn side p)) =
      (headerChanges side rs).filter fun c => p c.name := by
  have hrun := DiffState.restrict_foldl (p := p) DiffState.named_start side rs
  have hpart := DiffState.changes_restrict (DiffState.named_start.foldl side rs) p
  rw [hrun] at hpart
  exact hpart

end ProxyLog
