import Mathlib.Data.List.Dedup
import ProxyLog.Proofs.Header.Account

/-!
# The changes in order

The changes of a side stand in the order of the last marks of their names. In a log where processing
begins once this order can be read off the events: a name stands at its last event, or, if the proxy
held it back and nothing happened to it in processing, at its first.

* `placedNames es`: the places of the names among the events before processing.
* `accounts side before after`: the accounts of all names, in order.
* `DiffState.Marked s`: every reserved place is that of a held change.
* `DiffState.InOrder s names`: the marks of the history order the names in the same way as a list.
* `headerChanges_eq_accounts`: the changes of a side are the accounts of its names.
-/

set_option autoImplicit false

namespace ProxyLog

/-! ## Places -/

/-- The headers of a side that are set or unset, in order. -/
def sideEvents (side : Side) (rs : List Record) : List HeaderEvent :=
  (rs.filterMap (·.headerEvent?)).filter fun e => e.line.direction.side? == some side

/-- An event places its name last, unless it is one of a managed name that has a place. -/
def placeName (names : List String) (e : HeaderEvent) : List String :=
  if e.line.isManaged && names.contains e.line.name then names else names ++ [e.line.name]

/-- The places of the names before processing. -/
def placedNames (es : List HeaderEvent) : List String := es.foldl placeName []

/-- The accounts of all the names of a side, each at the last place of its name. -/
def accounts (side : Side) (before after : List Record) : List HeaderChange :=
  (placedNames (sideEvents side before) ++ (sideEvents side after).map (·.line.name)).dedup.filterMap
    fun name => HeaderEvent.account name (headerEvents side name before) (headerEvents side name after)

theorem placedNames_snoc (es : List HeaderEvent) (e : HeaderEvent) :
    placedNames (es ++ [e]) = placeName (placedNames es) e := by
  rw [placedNames, List.foldl_append]
  rfl

theorem mem_placedNames {es : List HeaderEvent} {name : String} :
    name ∈ placedNames es ↔ ∃ e ∈ es, e.line.name = name := by
  induction es using List.reverseRecOn with
  | nil => simp [placedNames]
  | append_singleton es e ih =>
    have hsplit : (∃ f ∈ es ++ [e], f.line.name = name) ↔ (∃ f ∈ es, f.line.name = name) ∨ e.line.name = name := by
      simp [or_and_right, exists_or]
    rw [placedNames_snoc, hsplit, ← ih, placeName]
    split
    · next hc =>
      have hmem : e.line.name ∈ placedNames es := by simpa using (Bool.and_eq_true_iff.mp hc).2
      constructor
      · exact Or.inl
      · rintro (h | rfl)
        · exact h
        · exact hmem
    · rw [List.mem_append, List.mem_singleton]
      constructor
      · rintro (h | rfl)
        · exact Or.inl h
        · exact Or.inr rfl
      · rintro (h | rfl)
        · exact Or.inl h
        · exact Or.inr rfl

theorem mem_sideEvents {side : Side} {name : String} {rs : List Record} :
    (∃ e ∈ sideEvents side rs, e.line.name = name) ↔ headerEvents side name rs ≠ [] := by
  constructor
  · rintro ⟨e, he, hname⟩
    obtain ⟨hmem, hside⟩ := List.mem_filter.mp he
    have hof : e ∈ headerEvents side name rs :=
      List.mem_filter.mpr ⟨hmem, by simpa [HeaderEvent.isOf, hname] using hside⟩
    exact List.ne_nil_of_mem hof
  · intro hne
    obtain ⟨e, he⟩ := List.exists_mem_of_ne_nil _ hne
    obtain ⟨hmem, hof⟩ := List.mem_filter.mp he
    obtain ⟨hside, hname⟩ := HeaderEvent.isOf_iff.mp hof
    exact ⟨e, List.mem_filter.mpr ⟨hmem, by simp [hside]⟩, hname⟩

theorem sideEvents_snoc_of_isOf {side : Side} {r : Record} {e : HeaderEvent} (hr : r.headerEvent? = some e)
    (he : e.isOf side e.line.name = true) (rs : List Record) :
    sideEvents side (rs ++ [r]) = sideEvents side rs ++ [e] := by
  have hside := (HeaderEvent.isOf_iff.mp he).1
  simp [sideEvents, hr, hside]

theorem sideEvents_snoc_of_none {side : Side} {r : Record} (hr : r.headerEvent? = none) (rs : List Record) :
    sideEvents side (rs ++ [r]) = sideEvents side rs := by
  simp [sideEvents, hr]

theorem sideEvents_snoc_of_not_bearsOn {side : Side} {r : Record}
    (hr : bearsOn side (fun _ => true) r = false) (rs : List Record) :
    sideEvents side (rs ++ [r]) = sideEvents side rs := by
  cases he : r.headerEvent? with
  | none => exact sideEvents_snoc_of_none he rs
  | some e =>
    rw [bearsOn_of_event he, Bool.and_true] at hr
    simp [sideEvents, he, hr]

/-! ## Last occurrences -/

theorem dedup_snoc {α : Type} [DecidableEq α] (l : List α) (a : α) :
    (l ++ [a]).dedup = l.dedup.filter (· ≠ a) ++ [a] := by
  induction l with
  | nil => simp
  | cons b l ih =>
    rw [List.cons_append]
    by_cases hb : b ∈ l
    · rw [List.dedup_cons_of_mem (List.mem_append_left _ hb), List.dedup_cons_of_mem hb, ih]
    · by_cases hba : b = a
      · subst hba
        rw [List.dedup_cons_of_mem (by simp), List.dedup_cons_of_notMem hb, ih,
          List.filter_cons_of_neg (by simp)]
      · rw [List.dedup_cons_of_notMem (by simp [hb, hba]), List.dedup_cons_of_notMem hb, ih,
          List.filter_cons_of_pos (by simp [hba]), List.cons_append]

/-- In a history of changes the result has one change for each known name, at its last mark. -/
theorem map_name_lastChanges (known : OrderedMap String HeaderChange) {history : List Mark}
    (h : ∀ m ∈ history, ∃ c, m = .change c) :
    (lastChanges known history).map (·.name) = (history.map Mark.name).dedup.filter known.contains := by
  induction history with
  | nil => rfl
  | cons m rest ih =>
    obtain ⟨c, rfl⟩ := h m List.mem_cons_self
    have hrest := ih fun m hm => h m (List.mem_cons_of_mem _ hm)
    -- The result skips a change that is made again later, as `dedup` skips a name that comes again.
    have hlater : rest.any (Mark.changes c.name) = true ↔ c.name ∈ rest.map Mark.name := by
      rw [List.any_eq_true, List.mem_map]
      constructor
      · rintro ⟨m, hm, hchanges⟩
        obtain ⟨d, rfl⟩ := h m (List.mem_cons_of_mem _ hm)
        exact ⟨_, hm, by simpa [Mark.changes] using hchanges⟩
      · rintro ⟨m, hm, hname⟩
        obtain ⟨d, rfl⟩ := h m (List.mem_cons_of_mem _ hm)
        exact ⟨_, hm, by simpa [Mark.changes] using hname⟩
    rw [lastChanges_change, List.map_cons, Mark.name_change]
    by_cases hmem : c.name ∈ rest.map Mark.name
    · rw [hlater.mpr hmem, Bool.not_true, Bool.and_false, if_neg (by simp), hrest,
        List.dedup_cons_of_mem hmem]
    · have hno : rest.any (Mark.changes c.name) = false := by
        rw [← Bool.not_eq_true, hlater]
        exact hmem
      rw [hno, Bool.not_false, Bool.and_true, List.dedup_cons_of_notMem hmem]
      split
      · next hk => rw [List.map_cons, hrest, List.filter_cons_of_pos hk]
      · next hk => rw [hrest, List.filter_cons_of_neg hk]

/-- A list of changes is told by the change of each name and the order of the names. -/
theorem eq_filterMap_of_filter_name {changes : List HeaderChange} {f : String → Option HeaderChange}
    (h : ∀ name, changes.filter (fun c => c.name == name) = (f name).toList) :
    changes = (changes.map (·.name)).filterMap f := by
  have hf : ∀ c ∈ changes, f c.name = some c := by
    intro c hc
    have hmem : c ∈ changes.filter fun d => d.name == c.name := List.mem_filter.mpr ⟨hc, by simp⟩
    rw [h] at hmem
    exact Option.mem_toList.mp hmem
  rw [List.filterMap_map]
  have hsome : changes.filterMap (f ∘ (·.name)) = changes.filterMap some :=
    List.filterMap_congr fun c hc => hf c hc
  rw [hsome, List.filterMap_some]

namespace DiffState
variable {s s' : DiffState} {c : HeaderChange} {names : List String} {name : String}

/-! ## Reserved places -/

/-- No name is held back twice, and every reserved place is that of a held change. -/
structure Marked (s : DiffState) : Prop where
  distinct : s.held.keys.Nodup
  reserved : ∀ name, Mark.reserved name ∈ s.history → s.held.contains name = true

theorem marked_start : start.Marked := ⟨List.nodup_nil, by simp [start]⟩

theorem Marked.record (h : s.Marked) (c : HeaderChange) : (s.record c).Marked := by
  refine ⟨h.distinct, ?_⟩
  intro name hm
  rcases List.mem_append.mp hm with hm | hm
  · exact h.reserved name hm
  · cases List.mem_singleton.mp hm

theorem contains_insert (m : OrderedMap String HeaderChange) (c : HeaderChange) (name : String) :
    (m.insert c.name c).contains name = (name == c.name || m.contains name) := by
  unfold OrderedMap.contains
  by_cases hn : name = c.name
  · rw [hn, OrderedMap.get?_insert_self]
    simp
  · rw [OrderedMap.get?_insert_of_ne m hn]
    simp [hn]

theorem Marked.hold (h : s.Marked) (c : HeaderChange) : (s.hold c).Marked := by
  refine ⟨OrderedMap.nodup_keys_alter h.distinct _ _, ?_⟩
  intro name hm
  have hcontains : (s.hold c).held.contains name = (name == c.name || s.held.contains name) :=
    contains_insert s.held c name
  rw [hcontains]
  simp only [DiffState.hold] at hm
  split at hm
  · simp [h.reserved name hm]
  · rcases List.mem_append.mp hm with hm | hm
    · simp [h.reserved name hm]
    · have hname : name = c.name := by simpa using hm
      simp [hname]

/-- After a flush every mark is a change. -/
theorem Marked.exists_change (h : s.Marked) : ∀ m ∈ s.flush.history, ∃ c, m = .change c := by
  intro m hm
  obtain ⟨m', hm', rfl⟩ := List.mem_map.mp hm
  cases m' with
  | change c => exact ⟨c, rfl⟩
  | reserved name =>
    obtain ⟨c, hc⟩ := Option.isSome_iff_exists.mp (h.reserved name hm')
    exact ⟨c, by simp [fill, hc]⟩

theorem Marked.onCall (h : s.Marked) : s.onCall.Marked := by
  unfold DiffState.onCall
  split
  · exact h
  · refine ⟨List.nodup_nil, ?_⟩
    intro name hm
    obtain ⟨c, hc⟩ := h.exists_change _ hm
    cases hc

theorem Marked.onHeader (h : s.Marked) (l : HeaderLine) : (s.onHeader l).Marked := by
  unfold DiffState.onHeader
  split
  · exact h.hold _
  · exact h.record _

theorem Marked.onUnset (h : s.Marked) (l : HeaderLine) : (s.onUnset l).Marked := by
  unfold DiffState.onUnset
  split
  · exact h.hold _
  · split
    · exact h
    · split
      · exact h.record _
      · exact ⟨h.distinct, h.reserved⟩

theorem Marked.step (h : s.Marked) (side : Side) (r : Record) : (s.step side r).Marked := by
  unfold DiffState.step
  split
  · split
    · exact h.onCall
    · exact h
  · exact ⟨h.distinct, h.reserved⟩
  · split
    · exact h.onHeader _
    · exact h
  · split
    · exact h.onUnset _
    · exact h
  · exact h

theorem marked_reading (side : Side) (rs : List Record) : (reading side rs).Marked := by
  induction rs using List.reverseRecOn with
  | nil => exact marked_start
  | append_singleton rs r ih =>
    rw [reading_snoc]
    exact ih.step side r

/-! ## The order of the marks -/

/-- The names of a list that have a current change, each at its last place. -/
def told (s : DiffState) (names : List String) : List String :=
  names.dedup.filter fun name => (s.current? name).isSome

theorem told_congr (h : ∀ name, (s'.current? name).isSome = (s.current? name).isSome) (names : List String) :
    s'.told names = s.told names := by
  unfold told
  exact List.filter_congr fun name _ => h name

theorem filter_ne_told (h : ∀ other, other ≠ name → s'.current? other = s.current? other) (names : List String) :
    (s'.told names).filter (· ≠ name) = (s.told names).filter (· ≠ name) := by
  unfold told
  rw [List.filter_filter, List.filter_filter]
  refine List.filter_congr fun other _ => ?_
  by_cases hne : other = name
  · simp [hne]
  · rw [h other hne]

theorem told_snoc_of_isSome (h : (s'.current? name).isSome = true)
    (hother : ∀ other, other ≠ name → s'.current? other = s.current? other) (names : List String) :
    s'.told (names ++ [name]) = (s.told names).filter (· ≠ name) ++ [name] := by
  have hlast : [name].filter (fun other => (s'.current? other).isSome) = [name] := by simp [h]
  rw [← filter_ne_told hother, told, dedup_snoc, List.filter_append, hlast, told, List.filter_filter,
    List.filter_filter]
  congr 1
  exact List.filter_congr fun other _ => Bool.and_comm _ _

theorem told_of_isNone (h : s'.current? name = none)
    (hother : ∀ other, other ≠ name → s'.current? other = s.current? other) (names : List String) :
    s'.told names = (s.told names).filter (· ≠ name) := by
  rw [← filter_ne_told hother, told, List.filter_filter]
  refine List.filter_congr fun other _ => ?_
  by_cases hne : other = name
  · simp [hne, h]
  · simp [hne]

theorem told_snoc_of_isNone (h : s'.current? name = none)
    (hother : ∀ other, other ≠ name → s'.current? other = s.current? other) (names : List String) :
    s'.told (names ++ [name]) = (s.told names).filter (· ≠ name) := by
  have hlast : [name].filter (fun other => (s'.current? other).isSome) = [] := by simp [h]
  rw [← told_of_isNone h hother, told, dedup_snoc, List.filter_append, hlast, List.append_nil,
    List.filter_filter, told]
  refine List.filter_congr fun other _ => ?_
  by_cases hne : other = name
  · simp [hne, h]
  · simp [hne]

/-- The marks of the history order the names that are told in the same way as a list. -/
def InOrder (s : DiffState) (names : List String) : Prop := s.told (s.history.map Mark.name) = s.told names

theorem current?_record_of_ne (h : name ≠ c.name) (s : DiffState) :
    (s.record c).current? name = s.current? name := by
  rw [current?, current?]
  have hknown : (s.record c).known.get? name = s.known.get? name := OrderedMap.get?_insert_of_ne _ h _
  rw [hknown]
  rfl

theorem current?_hold_of_ne (h : name ≠ c.name) (s : DiffState) :
    (s.hold c).current? name = s.current? name := by
  rw [current?, current?]
  have hheld : (s.hold c).held.get? name = s.held.get? name := OrderedMap.get?_insert_of_ne _ h _
  rw [hheld]
  rfl

theorem InOrder.record (h : s.InOrder names) (c : HeaderChange) : (s.record c).InOrder (names ++ [c.name]) := by
  have hsome : ((s.record c).current? c.name).isSome = true := by
    have hknown : (s.record c).known.get? c.name = some c := OrderedMap.get?_insert_self _ _ _
    rw [current?, hknown]
    simp
  have hhistory : (s.record c).history.map Mark.name = s.history.map Mark.name ++ [c.name] := by
    simp [DiffState.record]
  have hother : ∀ other, other ≠ c.name → (s.record c).current? other = s.current? other :=
    fun other hne => current?_record_of_ne hne s
  rw [InOrder, hhistory, told_snoc_of_isSome hsome hother, told_snoc_of_isSome hsome hother, h]

theorem InOrder.hold (h : s.InOrder names) (c : HeaderChange) :
    (s.hold c).InOrder (if s.held.contains c.name then names else names ++ [c.name]) := by
  have hheld : (s.hold c).held.get? c.name = some c := OrderedMap.get?_insert_self _ _ _
  have hsome : ((s.hold c).current? c.name).isSome = true := by
    rw [current?, hheld]
    rfl
  have hother : ∀ other, other ≠ c.name → (s.hold c).current? other = s.current? other :=
    fun other hne => current?_hold_of_ne hne s
  cases hc : s.held.contains c.name with
  | true =>
    have hhistory : (s.hold c).history = s.history := by simp [DiffState.hold, hc]
    have hcurrent : ∀ other, ((s.hold c).current? other).isSome = (s.current? other).isSome := by
      intro other
      by_cases hne : other = c.name
      · obtain ⟨d, hd⟩ := Option.isSome_iff_exists.mp hc
        rw [hne, hsome, current?, hd]
        rfl
      · rw [hother other hne]
    rw [if_pos rfl, InOrder, hhistory, told_congr hcurrent, told_congr hcurrent]
    exact h
  | false =>
    have hhistory : (s.hold c).history.map Mark.name = s.history.map Mark.name ++ [c.name] := by
      simp [DiffState.hold, hc]
    rw [if_neg (by simp), InOrder, hhistory, told_snoc_of_isSome hsome hother,
      told_snoc_of_isSome hsome hother, h]

variable {e : HeaderEvent}

theorem InOrder.onEvent_of_holdsBack (h : s.InOrder names) (hb : s.holdsBack e.line = true) :
    (s.onEvent e).InOrder (if s.held.contains e.line.name then names else names ++ [e.line.name]) := by
  unfold onEvent
  split
  · rw [onUnset, if_pos hb]
    exact h.hold _
  · rw [onHeader, if_pos hb]
    exact h.hold _

theorem InOrder.onEvent_of_not_holdsBack (h : s.InOrder names) (hb : s.holdsBack e.line = false)
    (hheld : s.held.get? e.line.name = none) : (s.onEvent e).InOrder (names ++ [e.line.name]) := by
  have hno : ¬ s.holdsBack e.line = true := by simp [hb]
  unfold onEvent
  split
  · rw [onUnset, if_neg hno]
    cases hk : s.known.get? e.line.name with
    | none =>
      -- The unset of a name that is not there: the name is in neither order.
      have hnone : s.current? e.line.name = none := by rw [current?_of_held hheld, hk]
      rw [InOrder, told_snoc_of_isNone hnone fun _ _ => rfl, ← told_of_isNone hnone fun _ _ => rfl]
      exact h
    | some previous =>
      simp only
      split
      · exact h.record _
      · -- The unset of an added name takes it out of both orders.
        have hnone : { s with known := s.known.erase e.line.name }.current? e.line.name = none := by
          rw [current?_of_held (s := { s with known := s.known.erase e.line.name }) hheld]
          exact OrderedMap.get?_erase_self _ _
        have hother : ∀ other, other ≠ e.line.name →
            { s with known := s.known.erase e.line.name }.current? other = s.current? other := by
          intro other hne
          simp only [current?, OrderedMap.get?_erase_of_ne _ hne]
        rw [InOrder, told_snoc_of_isNone hnone hother, told_of_isNone hnone hother]
        exact congrArg _ h
  · rw [onHeader, if_neg hno]
    exact h.record _

theorem map_name_flush (hn : s.Named) : s.flush.history.map Mark.name = s.history.map Mark.name := by
  rw [flush, List.map_map]
  exact List.map_congr_left fun m _ => name_fill hn.held m

theorem InOrder.onCall (h : s.InOrder names) (hm : s.Marked) (hn : s.Named) : s.onCall.InOrder names := by
  unfold DiffState.onCall
  split
  · exact h
  · have hisSome : ∀ other,
        ({ s.flush with processing := true }.current? other).isSome = (s.current? other).isSome := by
      intro other
      exact congrArg Option.isSome (current?_flush hm.distinct other)
    rw [InOrder, told_congr hisSome, told_congr hisSome]
    change s.told (s.flush.history.map Mark.name) = s.told names
    rw [map_name_flush hn]
    exact h

/-! ## Names in a whole log -/

variable {side : Side} {rs : List Record} {es : List HeaderEvent}

theorem get?_held_restrict (s : DiffState) (name : String) :
    (s.restrict fun other => other == name).held.get? name = s.held.get? name := by
  simp [restrict, OrderedMap.get?_restrict]

theorem get?_known_restrict (s : DiffState) (name : String) :
    (s.restrict fun other => other == name).known.get? name = s.known.get? name := by
  simp [restrict, OrderedMap.get?_restrict]

theorem arriving_of_uniform (hu : Uniform (headerEvents side name rs)) (hclosed : ∀ r ∈ rs, r.opens side = false) :
    (reading side rs).Arriving name (headerEvents side name rs) := by
  have hall := allAbout_recordsAbout side name rs
  rw [← headerEvents_recordsAbout] at hu
  have h := arriving_reading hall hu fun r hr => hclosed r (List.mem_filter.mp hr).1
  rw [headerEvents_recordsAbout, reading_recordsAbout] at h
  refine ⟨h.processing, ?_, ?_⟩
  · rw [← get?_known_restrict]
    exact h.fresh
  · rw [← current?_restrict]
    exact h.current

/-- What is held back is a managed name, and nothing is held back in processing. -/
theorem held_of_uniform (hu : Uniform (headerEvents side name rs)) {c : HeaderChange}
    (hc : (reading side rs).held.get? name = some c) :
    (reading side rs).processing = false ∧ ∃ e ∈ headerEvents side name rs, e.line.isManaged = true := by
  have hall := allAbout_recordsAbout side name rs
  rw [← headerEvents_recordsAbout] at hu
  obtain ⟨hs, hmanaged⟩ := tracks_reading hall hu
  rw [headerEvents_recordsAbout, reading_recordsAbout] at hmanaged
  rw [reading_recordsAbout] at hs
  rw [← get?_held_restrict] at hc
  refine ⟨?_, hmanaged c hc⟩
  cases hp : (reading side rs).processing with
  | false => rfl
  | true => exact absurd ((hs.idle hp).symm.trans hc) (by simp)

theorem origin?_isSome {es : List HeaderEvent} (hm : ∀ e ∈ es, e.line.isManaged = true) :
    (HeaderEvent.origin? es).isSome = true ↔ es ≠ [] := by
  constructor
  · rintro h rfl
    cases h
  · intro hne
    obtain ⟨e, he⟩ := List.exists_mem_of_ne_nil es hne
    rw [HeaderEvent.origin?, Option.isSome_or, Bool.or_eq_true, List.find?_isSome, List.find?_isSome]
    cases hunset : e.isUnset with
    | true => exact Or.inl ⟨e, by simpa using he, by simp [hunset, hm e he]⟩
    | false => exact Or.inr ⟨e, he, by simp [hunset]⟩

/-- While headers come in, a name with managed events only is held back from the first of them. -/
theorem Arriving.contains_held (h : s.Arriving name es) (hm : ∀ e ∈ es, e.line.isManaged = true) :
    s.held.contains name = true ↔ es ≠ [] := by
  have hcurrent := h.current
  rw [current?_of_known (h.fresh hm), HeaderEvent.account_nil] at hcurrent
  rw [OrderedMap.contains, hcurrent, Option.isSome_map, origin?_isSome hm]

/-! ## The order of a log -/

theorem inOrder_start : start.InOrder [] := rfl

/-- While headers come in, an event keeps the order: a managed name has a place just when it is held
back, and another event is noted at once. -/
theorem InOrder.onEvent_arriving (h : (reading side rs).InOrder (placedNames (sideEvents side rs)))
    (hclosed : ∀ r ∈ rs, r.opens side = false)
    (hu : Uniform (headerEvents side e.line.name rs ++ [e])) :
    ((reading side rs).onEvent e).InOrder (placeName (placedNames (sideEvents side rs)) e) := by
  have harriving := arriving_of_uniform hu.of_append hclosed
  have hback := harriving.holdsBack hu
  have hplace : e.line.name ∈ placedNames (sideEvents side rs) ↔ headerEvents side e.line.name rs ≠ [] :=
    mem_placedNames.trans mem_sideEvents
  unfold placeName
  cases hm : e.line.isManaged with
  | true =>
    have hall : ∀ f ∈ headerEvents side e.line.name rs, f.line.isManaged = true :=
      fun f hf => (hu f (by simp [hf]) e (by simp)).trans hm
    have hsame : (placedNames (sideEvents side rs)).contains e.line.name =
        (reading side rs).held.contains e.line.name := by
      rw [Bool.eq_iff_iff, List.contains_iff_mem, hplace, harriving.contains_held hall]
    rw [Bool.true_and, hsame]
    exact h.onEvent_of_holdsBack (hback.trans hm)
  | false =>
    have hheld : (reading side rs).held.get? e.line.name = none := by
      by_contra hne
      obtain ⟨c, hc⟩ := Option.ne_none_iff_exists'.mp hne
      obtain ⟨-, f, hf, hfm⟩ := held_of_uniform hu.of_append hc
      have hsame := hu f (by simp [hf]) e (by simp)
      rw [hfm, hm] at hsame
      cases hsame
    rw [Bool.false_and, if_neg (by simp)]
    exact h.onEvent_of_not_holdsBack (hback.trans hm) hheld

theorem inOrder_arriving (hu : ∀ name, Uniform (headerEvents side name rs))
    (hclosed : ∀ r ∈ rs, r.opens side = false) :
    (reading side rs).InOrder (placedNames (sideEvents side rs)) := by
  induction rs using List.reverseRecOn with
  | nil => exact inOrder_start
  | append_singleton rs r ih =>
    have hclosedInit : ∀ q ∈ rs, q.opens side = false := fun q hq => hclosed q (by simp [hq])
    have h := ih (fun name => (hu name).of_headerEvents_append) hclosedInit
    rw [reading_snoc]
    cases hbears : bearsOn side (fun _ => true) r with
    | false =>
      rw [step_of_not_bearsOn hbears, sideEvents_snoc_of_not_bearsOn hbears]
      exact h
    | true =>
      rcases event_of_bearsOn hbears with hr | ⟨code, hr⟩ | ⟨e, hr, he, -⟩
      · rw [sideEvents_snoc_of_none (by simp [Record.headerEvent?, hr]),
          step_of_not_opens hr (hclosed r (by simp))]
        exact h
      · rw [sideEvents_snoc_of_none (by simp [Record.headerEvent?, hr]), step_of_status hr]
        exact h
      · have huEvents := hu e.line.name
        rw [headerEvents_snoc_of_isOf hr he] at huEvents
        rw [sideEvents_snoc_of_isOf hr he, placedNames_snoc, step_of_event hr he]
        exact h.onEvent_arriving hclosedInit huEvents

/-- In processing nothing is held back, and every event is noted at once. -/
theorem InOrder.onEvent_processing (h : (reading side rs).InOrder names)
    (hp : (reading side rs).processing = true) (hu : Uniform (headerEvents side e.line.name rs)) :
    ((reading side rs).onEvent e).InOrder (names ++ [e.line.name]) := by
  have hback : (reading side rs).holdsBack e.line = false := by
    rw [holdsBack, hp]
    rfl
  have hheld : (reading side rs).held.get? e.line.name = none := by
    by_contra hne
    obtain ⟨c, hc⟩ := Option.ne_none_iff_exists'.mp hne
    have hno := (held_of_uniform hu hc).1
    rw [hp] at hno
    cases hno
  exact h.onEvent_of_not_holdsBack hback hheld

theorem inOrder_processed {before after : List Record} {call : Record} (hcall : call.opens side = true)
    (hu : ∀ name, Uniform (headerEvents side name (before ++ [call] ++ after)))
    (hbefore : ∀ r ∈ before, r.opens side = false) (hafter : ∀ r ∈ after, r.family ≠ .status) :
    (reading side (before ++ [call] ++ after)).processing = true ∧
      (reading side (before ++ [call] ++ after)).InOrder
        (placedNames (sideEvents side before) ++ (sideEvents side after).map (·.line.name)) := by
  induction after using List.reverseRecOn with
  | nil =>
    rw [List.append_nil] at hu ⊢
    have harriving := inOrder_arriving (fun name => (hu name).of_headerEvents_append) hbefore
    have hplaces : placedNames (sideEvents side before) ++ (sideEvents side []).map (·.line.name) =
        placedNames (sideEvents side before) := List.append_nil _
    rw [reading_snoc, step_of_opens hcall, hplaces]
    exact ⟨processing_onCall _, harriving.onCall (marked_reading side before) (named_start.foldl side before)⟩
  | append_singleton after r ih =>
    rw [← List.append_assoc] at hu ⊢
    have huInit : ∀ name, Uniform (headerEvents side name (before ++ [call] ++ after)) :=
      fun name => (hu name).of_headerEvents_append
    obtain ⟨hp, h⟩ := ih huInit fun q hq => hafter q (by simp [hq])
    rw [reading_snoc]
    cases hbears : bearsOn side (fun _ => true) r with
    | false =>
      rw [step_of_not_bearsOn hbears, sideEvents_snoc_of_not_bearsOn hbears]
      exact ⟨hp, h⟩
    | true =>
      rcases event_of_bearsOn hbears with hr | ⟨code, hr⟩ | ⟨e, hr, he, -⟩
      · rw [sideEvents_snoc_of_none (by simp [Record.headerEvent?, hr])]
        rcases step_of_call hr (reading side (before ++ [call] ++ after)) with h1 | h1
        · rw [h1, onCall, if_pos hp]
          exact ⟨hp, h⟩
        · rw [h1]
          exact ⟨hp, h⟩
      · exact absurd (by simp [Record.family, hr, Payload.family]) (hafter r (by simp))
      · have hnames : (sideEvents side (after ++ [r])).map (·.line.name) =
            (sideEvents side after).map (·.line.name) ++ [e.line.name] := by
          rw [sideEvents_snoc_of_isOf hr he, List.map_append]
          rfl
        rw [step_of_event hr he, hnames, ← List.append_assoc]
        exact ⟨(processing_onEvent _ e).trans hp, h.onEvent_processing hp (huInit e.line.name)⟩

end DiffState

/-- The changes of a side, as names in the order of their last marks. -/
theorem map_name_headerChanges (side : Side) (rs : List Record) :
    (headerChanges side rs).map (·.name) =
      (DiffState.reading side rs).told ((DiffState.reading side rs).history.map Mark.name) := by
  have hm := DiffState.marked_reading side rs
  have hn : (DiffState.reading side rs).Named := DiffState.named_start.foldl side rs
  have hlast := map_name_lastChanges (DiffState.reading side rs).flush.known hm.exists_change
  rw [DiffState.map_name_flush hn] at hlast
  refine hlast.trans ?_
  unfold DiffState.told
  refine List.filter_congr fun name _ => ?_
  rw [OrderedMap.contains, DiffState.get?_known_flush hm.distinct]

theorem inOrder_reading {side : Side} {rs before after : List Record} (h : Phases side rs before after)
    (hu : ∀ name, Uniform (headerEvents side name rs)) :
    (DiffState.reading side rs).InOrder
      (placedNames (sideEvents side before) ++ (sideEvents side after).map (·.line.name)) := by
  cases h with
  | arriving hbefore =>
    have hplaces : placedNames (sideEvents side rs) ++ (sideEvents side []).map (·.line.name) =
        placedNames (sideEvents side rs) := List.append_nil _
    rw [hplaces]
    exact DiffState.inOrder_arriving hu hbefore
  | processed hbefore hcall hafter =>
    rename_i call
    have hassoc : before ++ call :: after = before ++ [call] ++ after := by simp
    rw [hassoc] at hu ⊢
    exact (DiffState.inOrder_processed hcall hu hbefore hafter).2

/-- In a log where processing begins at most once, and where no managed name comes in two directions,
the changes of a side are the accounts of its names, each at the last place of its name. -/
theorem headerChanges_eq_accounts {side : Side} {rs before after : List Record}
    (h : Phases side rs before after) (hone : ∀ name, isProxyManaged name = true → OneDirection name rs) :
    headerChanges side rs = accounts side before after := by
  have hu : ∀ name, Uniform (headerEvents side name rs) := fun name => uniform_headerEvents (hone name) side
  have hcurrent : ∀ name, (DiffState.reading side rs).current? name =
      HeaderEvent.account name (headerEvents side name before) (headerEvents side name after) :=
    fun name => DiffState.current?_reading h (hu name)
  have hname : ∀ name, (headerChanges side rs).filter (fun c => c.name == name) =
      (HeaderEvent.account name (headerEvents side name before) (headerEvents side name after)).toList := by
    intro name
    rw [filter_headerChanges (hu name), DiffState.reading_recordsAbout, DiffState.current?_restrict, hcurrent]
  have horder := inOrder_reading h hu
  rw [eq_filterMap_of_filter_name hname, map_name_headerChanges, horder, DiffState.told, List.filterMap_filter,
    accounts]
  refine List.filterMap_congr fun name _ => ?_
  rw [hcurrent]
  cases HeaderEvent.account name (headerEvents side name before) (headerEvents side name after) <;> rfl

/-- A client request with two headers, to one of which the proxy adds a value. -/
def arrivingRecords : List Record := [
  ⟨"ReqHeader", "Via: a", "-- ReqHeader Via: a", .header ⟨"Via", "a", .request⟩⟩,
  ⟨"ReqHeader", "Host: h", "-- ReqHeader Host: h", .header ⟨"Host", "h", .request⟩⟩,
  ⟨"ReqUnset", "Via: a", "-- ReqUnset Via: a", .unset ⟨"Via", "a", .request⟩⟩,
  ⟨"ReqHeader", "Via: a, b", "-- ReqHeader Via: a, b", .header ⟨"Via", "a, b", .request⟩⟩]

/-- Processing adds one header and unsets another. -/
def processedRecords : List Record := [
  ⟨"ReqHeader", "Id: 1", "-- ReqHeader Id: 1", .header ⟨"Id", "1", .request⟩⟩,
  ⟨"ReqUnset", "Host: h", "-- ReqUnset Host: h", .unset ⟨"Host", "h", .request⟩⟩]

def receiveCall : Record := ⟨"VCL_call", "RECV", "-- VCL_call RECV", .vclCall⟩

theorem headerChanges_arriving_processed :
    Phases .request (arrivingRecords ++ receiveCall :: processedRecords) arrivingRecords processedRecords ∧
      (∀ name, isProxyManaged name = true →
        OneDirection name (arrivingRecords ++ receiveCall :: processedRecords)) ∧
      headerChanges .request (arrivingRecords ++ receiveCall :: processedRecords) =
        [⟨"Via", "a", "a, b", .received⟩, ⟨"Id", "1", "1", .added⟩, ⟨"Host", "h", "h", .deleted⟩] := by
  have hphases : Phases .request (arrivingRecords ++ receiveCall :: processedRecords) arrivingRecords
      processedRecords := .processed (by decide) (by decide) (by decide)
  have hone : ∀ name, isProxyManaged name = true →
      OneDirection name (arrivingRecords ++ receiveCall :: processedRecords) :=
    fun name _ => oneDirection_of_forall .request (by decide) name
  exact ⟨hphases, hone, (headerChanges_eq_accounts hphases hone).trans (by decide +kernel)⟩

/-- A managed header of a backend request, unset with another value than it was set with. -/
def backendRecords : List Record := [
  ⟨"BereqHeader", "Via: a", "-- BereqHeader Via: a", .header ⟨"Via", "a", .backendRequest⟩⟩,
  ⟨"BereqUnset", "Via: b", "-- BereqUnset Via: b", .unset ⟨"Via", "b", .backendRequest⟩⟩]

/-- The last unset of a managed name tells what came in for requests of the client only: here the
header came in with the value that was set. -/
theorem incoming_ne_lastUnset_backend :
    Phases .request backendRecords backendRecords [] ∧
      (∀ name, isProxyManaged name = true → OneDirection name backendRecords) ∧
      isProxyManaged "Via" = true ∧
      headerChanges .request backendRecords = [⟨"Via", "a", "b", .deleted⟩] ∧
      (unsetValues .request "Via" backendRecords).getLast? = some "b" ∧ "a" ≠ "b" := by
  have hphases : Phases .request backendRecords backendRecords [] := .arriving (by decide)
  have hone : ∀ name, isProxyManaged name = true → OneDirection name backendRecords :=
    fun name _ => oneDirection_of_forall .backendRequest (by decide) name
  exact ⟨hphases, hone, by decide +kernel, by decide +kernel, by decide +kernel, by decide⟩

end ProxyLog
