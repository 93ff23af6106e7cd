import ProxyLog.Proofs.Header.Edit

/-!
# Setting a header in place of others

A header that is set in processing takes the place of all earlier values, unless it passes for one that is not there
yet. Whether it is there is told by the text of its first value: one whose first value is empty keeps its values, and
the new value comes behind them.

* `HeaderSet.yields hs name`: the values of the name give way to one that is set.
* `values_addProcessed`, `live_addProcessed`: the values after a set.
* `HeaderSet.Filled hs name`: the name has no empty value; `filled_editAll`: it never has one if none is put in.
* `addProcessed_alone`: when the value that is set stands alone, and what the set leaves as it was.
-/

set_option autoImplicit false

namespace ProxyLog

namespace HeaderSet
variable {hs : HeaderSet}

/-! ## The values after a set -/

/-- The values of the name give way to one that is set: it is the host's, or its first value is not empty. -/
def yields (hs : HeaderSet) (name : String) : Bool := canonicalName name == hostName || hs.first name false != ""

theorem values_addProcessed (h : hs.WellFormed) (name text : String) :
    (hs.addProcessed name text).values name false =
      (if hs.yields name then [] else hs.values name false) ++
        [⟨text, if hs.first name false = "" then .added else .modified⟩] := by
  have hadd : (hs.addProcessed name text).values name false =
      (((hs.get? name).getD (.empty (canonicalName name))).add text
        (if hs.first name false = "" then .added else .modified)).values := by
    rw [values, addProcessed, get?_add_self]
    rfl
  have hname : ((hs.get? name).getD (.empty (canonicalName name))).name = canonicalName name := by
    cases hg : hs.get? name with
    | none => rfl
    | some g => exact h.name_of_get? hg
  have hvalues : ((hs.get? name).getD (.empty (canonicalName name))).values = hs.values name false := by
    rw [values]
    cases hs.get? name <;> rfl
  rw [hadd]
  simp only [Header.add, hname, hvalues]
  by_cases hfirst : hs.first name false = "" <;> simp [yields, hfirst]

theorem live_addProcessed (h : hs.WellFormed) (name text : String) :
    (hs.addProcessed name text).live name false =
      (if hs.yields name then [] else hs.live name false) ++
        [⟨text, if hs.first name false = "" then .added else .modified⟩] := by
  have hlive : HeaderValue.isLive ⟨text, if hs.first name false = "" then .added else .modified⟩ = true := by
    split <;> rfl
  rw [live, values_addProcessed h, List.filter_append, List.filter_cons_of_pos hlive, List.filter_nil]
  split <;> rfl

theorem live_addProcessed_eq_singleton_iff (h : hs.WellFormed) (name text : String) :
    (∃ state, (hs.addProcessed name text).live name false = [⟨text, state⟩]) ↔
      hs.yields name = true ∨ hs.live name false = [] := by
  rw [live_addProcessed h]
  cases hs.yields name with
  | true => simp
  | false =>
    constructor
    · rintro ⟨state, hstate⟩
      have hlength := congrArg List.length hstate
      exact Or.inr (by simpa using hlength)
    · rintro (hyields | hnone)
      · cases hyields
      · exact ⟨_, by rw [hnone]; rfl⟩

theorem values_received_addProcessed (hs : HeaderSet) (name text : String) :
    (hs.addProcessed name text).values name true = hs.values name true := by
  have hstate : ¬(if hs.first name false = "" then HeaderState.added else .modified) = .received := by
    split <;> simp
  rw [values, values, addProcessed, get?_add_self]
  cases hs.get? name <;> simp [Header.list, Header.add, Header.empty, hstate]

end HeaderSet

/-! ## Headers without empty values -/

namespace Header
variable {h : Header}

/-- No value of the header is empty, received ones included. -/
structure Filled (h : Header) : Prop where
  values : ∀ v ∈ h.values, v.text ≠ ""
  received : ∀ v ∈ h.received, v.text ≠ ""

theorem filled_empty (name : String) : (empty name).Filled := ⟨fun _ hv => (nomatch hv), fun _ hv => (nomatch hv)⟩

theorem Filled.add (hf : h.Filled) {text : String} (htext : text ≠ "") (state : HeaderState) :
    (h.add text state).Filled where
  values := by
    intro v hv
    rcases mem_values_add hv with hv | rfl
    · exact hf.values v hv
    · exact htext
  received := by
    intro v hv
    rcases mem_received_add hv with hv | ⟨-, rfl⟩
    · exact hf.received v hv
    · exact htext

theorem Filled.delete (hf : h.Filled) (alsoReceived : Bool) : (h.delete alsoReceived).Filled where
  values := by
    intro v hv
    obtain ⟨u, hu, rfl⟩ := List.mem_map.mp hv
    exact hf.values u hu
  received := by
    intro v hv
    simp only [Header.delete] at hv
    split at hv
    · obtain ⟨u, hu, rfl⟩ := List.mem_map.mp hv
      exact hf.received u hu
    · exact hf.received v hv

end Header

namespace HeaderSet
variable {hs target buffer : HeaderSet} {name other text : String}

/-! ## Names without empty values -/

/-- The name has no empty value, received ones included. -/
def Filled (hs : HeaderSet) (name : String) : Prop := ∀ g, hs.get? name = some g → g.Filled

theorem filled_set_empty (name : String) : empty.Filled name := fun _ hg => (nomatch hg)

theorem Filled.congr {hs' : HeaderSet} (hf : hs.Filled name) (h : hs'.get? name = hs.get? name) : hs'.Filled name := by
  intro g hg
  rw [h] at hg
  exact hf g hg

theorem Filled.congr_name (hf : hs.Filled name) (h : canonicalName other = canonicalName name) : hs.Filled other := by
  intro g hg
  rw [get?_congr h] at hg
  exact hf g hg

theorem Filled.add (hf : hs.Filled name) (htext : canonicalName name = canonicalName other → text ≠ "")
    (state : HeaderState) : (hs.add other text state).Filled name := by
  by_cases hsame : canonicalName name = canonicalName other
  · suffices hfilled : (hs.add other text state).Filled other from hfilled.congr_name hsame
    intro g hg
    rw [get?_add_self] at hg
    obtain rfl := Option.some.inj hg
    refine Header.Filled.add ?_ (htext hsame) state
    cases hold : hs.get? other with
    | none => exact Header.filled_empty _
    | some g => exact hf.congr_name hsame.symm g hold
  · exact hf.congr (get?_add_of_ne hs hsame text state)

theorem Filled.delete (hf : hs.Filled name) (other : String) (alsoReceived : Bool) :
    (hs.delete other alsoReceived).Filled name := by
  by_cases hsame : canonicalName name = canonicalName other
  · suffices hfilled : (hs.delete other alsoReceived).Filled other from hfilled.congr_name hsame
    intro g hg
    rw [get?_delete_self] at hg
    obtain ⟨g', hold, rfl⟩ := Option.map_eq_some_iff.mp hg
    exact (hf.congr_name hsame.symm g' hold).delete alsoReceived
  · exact hf.congr (get?_delete_of_ne hs hsame alsoReceived)

theorem Filled.absorb (hf : hs.Filled name) {g : Header} (hg : g.Filled) : (hs.absorb g).Filled name := by
  -- Every text that is put in comes from the buffered header: first its received values, then all the others.
  refine List.foldlRecOn (motive := fun t : HeaderSet => t.Filled name) _ _ ?_ ?_
  · refine List.foldlRecOn (motive := fun t : HeaderSet => t.Filled name) _ _ hf ?_
    intro t ht v hv
    exact ht.add (fun _ => hg.received v (List.mem_filter.mp hv).1) _
  · intro t ht v hv
    unfold absorbValue
    split
    · exact ht.delete _ _
    · exact ht.add (fun _ => hg.values v hv) _

theorem Filled.merge (hf : target.Filled name) (hb : buffer.WellFormed) (hbf : buffer.Filled name) :
    (target.merge buffer).Filled name := by
  cases hg : buffer.get? name with
  | none => exact hf.congr (get?_merge_of_none hb hg target)
  | some g =>
    obtain ⟨base, hbase, hmerge⟩ := exists_get?_merge hb hg target
    exact ((hf.congr hbase).absorb (hbf g hg)).congr hmerge

/-- A name without empty values is seen to be there whenever it has a value. -/
theorem Filled.yields_or_live_eq_nil (hf : hs.Filled name) : hs.yields name = true ∨ hs.live name false = [] := by
  unfold yields live first values
  cases hg : hs.get? name with
  | none => exact Or.inr rfl
  | some g =>
    cases hvalues : g.values with
    | nil => exact Or.inr (by simp [Header.list, hvalues])
    | cons v vs =>
      have hv : v.text ≠ "" := (hf g hg).values v (by simp [hvalues])
      exact Or.inl (by simp [Header.list, hvalues, hv])

end HeaderSet

/-! ## Edits without empty values -/

/-- The edit gives the name an empty value. -/
def HeaderEdit.blanks (name : String) : HeaderEdit → Bool
  | add other text _ | process other text => canonicalName name == canonicalName other && text == ""
  | delete _ _ | clear => false

/-- The edit gives the name an empty value in one of the sets. -/
def PairEdit.blanks (name : String) : PairEdit → Bool
  | edit _ e => e.blanks name
  | merge _ => false

variable {name : String}

theorem HeaderEdit.filled_apply {e : HeaderEdit} (he : e.blanks name = false) {hs : HeaderSet} (h : hs.Filled name) :
    (e.apply hs).Filled name := by
  cases e with
  | add other text state => exact h.add (by simpa [blanks] using he) state
  | process other text => exact h.add (by simpa [blanks] using he) _
  | delete other alsoReceived => exact h.delete other alsoReceived
  | clear => exact HeaderSet.filled_set_empty name

theorem PairEdit.filled_apply {e : PairEdit} (he : e.blanks name = false) {pair : Place → HeaderSet}
    (hreg : ∀ place, (pair place).Regular) (h : ∀ place, (pair place).Filled name) (place : Place) :
    (e.apply pair place).Filled name := by
  cases e with
  | edit edited e =>
    rw [apply_edit]
    split
    · exact HeaderEdit.filled_apply he (h place)
    · exact h place
  | merge target =>
    show HeaderSet.Filled (if place = target then _ else _) name
    split
    · exact (h target).merge (hreg target.other).wellFormed (h target.other)
    · exact HeaderSet.filled_set_empty name

theorem filled_editAll {edits : List PairEdit} (h : ∀ e ∈ edits, e.blanks name = false) (place : Place) :
    (editAll edits place).Filled name := by
  induction edits using List.reverseRecOn generalizing place with
  | nil => exact HeaderSet.filled_set_empty name
  | append_singleton edits e ih =>
    rw [editAll_append]
    have hlast : e.blanks name = false := h e (by simp)
    exact PairEdit.filled_apply hlast (regular_editAll edits) (ih fun e he => h e (List.mem_append_left _ he)) place

/-! ## Any set that arises -/

theorem HeaderSet.Arises.regular {hs : HeaderSet} (h : hs.Arises) : hs.Regular := by
  induction h with
  | empty => exact regular_empty
  | add _ name text state ih => exact ih.add name text state
  | delete _ name alsoReceived ih => exact ih.delete name alsoReceived
  | merge _ _ ih _ => exact ih.merge _

/-- A value that is set stands alone under its name exactly when the values that are there give way to it, or none of
them is live; so it always does if the name was never given an empty value. What the name received, the headers of all
other names and the order of the names stay as they were. -/
theorem addProcessed_alone {hs : HeaderSet} (h : hs.Arises) (name text : String) :
    ((∃ state, (hs.addProcessed name text).live name false = [⟨text, state⟩]) ↔
        hs.yields name = true ∨ hs.live name false = []) ∧
      (∀ (edits : List PairEdit) (place : Place), hs = editAll edits place → (∀ e ∈ edits, e.blanks name = false) →
        ∃ state, (hs.addProcessed name text).live name false = [⟨text, state⟩]) ∧
      (hs.addProcessed name text).values name true = hs.values name true ∧
      hs.EditedAt (hs.addProcessed name text) name := by
  have halone := HeaderSet.live_addProcessed_eq_singleton_iff h.regular.wellFormed name text
  refine ⟨halone, ?_, hs.values_received_addProcessed name text, hs.editedAt_add name text _⟩
  rintro edits place rfl hblanks
  exact halone.mpr (filled_editAll hblanks place).yields_or_live_eq_nil

/-- A header that came in, with one more value that was buffered. -/
def repeatedTag : HeaderSet :=
  (HeaderSet.empty.add "X-Tag" "a" .received).merge (HeaderSet.empty.add "x-tag" "b" .added)

def repeatedTagEdits : List PairEdit :=
  [.edit .main (.add "X-Tag" "a" .received), .edit .buffer (.add "x-tag" "b" .added), .merge .main]

theorem addProcessed_alone_repeated :
    repeatedTag.Arises ∧ repeatedTag.live "X-Tag" false = [⟨"a", .received⟩, ⟨"b", .added⟩] ∧
      repeatedTag = editAll repeatedTagEdits .main ∧ (∀ e ∈ repeatedTagEdits, e.blanks "X-TAG" = false) ∧
      (∃ state, (repeatedTag.addProcessed "X-TAG" "c").live "X-TAG" false = [⟨"c", state⟩]) ∧
      (repeatedTag.addProcessed "X-TAG" "c").values "X-TAG" true = [⟨"a", .received⟩] ∧
      repeatedTag.EditedAt (repeatedTag.addProcessed "X-TAG" "c") "X-TAG" := by
  have harises : repeatedTag.Arises := (HeaderSet.Arises.empty.add _ _ _).merge (HeaderSet.Arises.empty.add _ _ _)
  have hedits : repeatedTag = editAll repeatedTagEdits .main := by decide +kernel
  have hblanks : ∀ e ∈ repeatedTagEdits, e.blanks "X-TAG" = false := by decide +kernel
  obtain ⟨-, hfilled, hreceived, hedited⟩ := addProcessed_alone harises "X-TAG" "c"
  exact ⟨harises, by decide +kernel, hedits, hblanks, hfilled repeatedTagEdits .main hedits hblanks,
    hreceived.trans (by decide +kernel), hedited⟩

/-- A header that came in empty and is then set: the empty value stays next to the one that was set. -/
theorem not_alone_blank :
    (HeaderSet.empty.add "X-Tag" "" .received).Arises ∧
      ((HeaderSet.empty.add "X-Tag" "" .received).addProcessed "X-Tag" "1").live "X-Tag" false =
        [⟨"", .received⟩, ⟨"1", .added⟩] ∧
      ¬∃ state, ((HeaderSet.empty.add "X-Tag" "" .received).addProcessed "X-Tag" "1").live "X-Tag" false =
        [⟨"1", state⟩] := by
  have hlive : ((HeaderSet.empty.add "X-Tag" "" .received).addProcessed "X-Tag" "1").live "X-Tag" false =
      [⟨"", .received⟩, ⟨"1", .added⟩] := by decide +kernel
  refine ⟨HeaderSet.Arises.empty.add _ _ _, hlive, ?_⟩
  rintro ⟨state, hstate⟩
  rw [hlive] at hstate
  simp at hstate

end ProxyLog
