import Mathlib.Data.List.Induction
import ProxyLog.Proofs.Header.Restriction

/-!
# The reading of one name

A log whose records all bear on one name is read with at most one change under way: the change that
is held back, or else the known one. It is the last mark of the history, so it is the result.

* `Uniform es`: the events are all about headers that the proxy manages, or none is.
* `OneDirection name rs`: the request headers of a name are all the client's or all a backend's.
* `DiffState.current? s name`: the change of a name as it stands.
* `DiffState.Tracks name s`: the current change of the name is the last mark of the history.
* `current?_onHeader`, `current?_onUnset`, `current?_onCall`: the current change after a record.
* `filter_headerChanges`: the changes of one name are its current change at the end of its records.
-/

set_option autoImplicit false

namespace ProxyLog

/-- The events are all about headers that the proxy manages, or none of them is. -/
def Uniform (es : List HeaderEvent) : Prop := ∀ e ∈ es, ∀ f ∈ es, e.line.isManaged = f.line.isManaged

theorem Uniform.of_append {es fs : List HeaderEvent} (h : Uniform (es ++ fs)) : Uniform es :=
  fun e he f hf => h e (List.mem_append_left fs he) f (List.mem_append_left fs hf)

/-! ## Records about one name -/

theorem HeaderEvent.isOf_iff {e : HeaderEvent} {side : Side} {name : String} :
    e.isOf side name = true ↔ e.line.direction.side? = some side ∧ e.line.name = name := by
  simp [isOf]

/-- The request headers of a name are all the client's, or all those of a backend request. -/
def OneDirection (name : String) (rs : List Record) : Prop :=
  ∀ e ∈ headerEvents .request name rs, ∀ f ∈ headerEvents .request name rs,
    e.line.direction = f.line.direction

instance (name : String) (rs : List Record) : Decidable (OneDirection name rs) := by
  unfold OneDirection
  infer_instance

theorem OneDirection.of_append {name : String} {rs qs : List Record} (h : OneDirection name (rs ++ qs)) :
    OneDirection name rs := by
  intro e he f hf
  rw [OneDirection, headerEvents_append] at h
  exact h e (List.mem_append_left _ he) f (List.mem_append_left _ hf)

theorem oneDirection_of_forall {rs : List Record} (direction : Direction)
    (h : ∀ e ∈ rs.filterMap (·.headerEvent?), e.line.direction = direction) (name : String) :
    OneDirection name rs := by
  intro e he f hf
  rw [h e (List.mem_filter.mp he).1, h f (List.mem_filter.mp hf).1]

theorem mem_headerEvents {side : Side} {name : String} {rs : List Record} {e : HeaderEvent}
    (he : e ∈ headerEvents side name rs) : e.line.direction.side? = some side ∧ e.line.name = name :=
  HeaderEvent.isOf_iff.mp (List.mem_filter.mp he).2

/-- The events of a name are uniform unless the name is managed and comes in two directions. -/
theorem uniform_headerEvents {name : String} {rs : List Record}
    (h : isProxyManaged name = true → OneDirection name rs) (side : Side) :
    Uniform (headerEvents side name rs) := by
  intro e he f hf
  obtain ⟨hes, hen⟩ := mem_headerEvents he
  obtain ⟨hfs, hfn⟩ := mem_headerEvents hf
  rw [HeaderLine.isManaged, HeaderLine.isManaged, hen, hfn]
  cases hm : isProxyManaged name with
  | false => rw [Bool.and_false, Bool.and_false]
  | true =>
    rw [Bool.and_true, Bool.and_true]
    cases side with
    | request => rw [h hm e he f hf]
    | response =>
      have he' : e.line.direction ≠ .request := fun hd => by rw [hd] at hes; cases hes
      have hf' : f.line.direction ≠ .request := fun hd => by rw [hd] at hfs; cases hfs
      rw [beq_eq_false_iff_ne.mpr he', beq_eq_false_iff_ne.mpr hf']

/-- An event bears on its own name only. -/
theorem bearsOn_of_event {side : Side} {r : Record} {e : HeaderEvent} (hr : r.headerEvent? = some e)
    (p : String → Bool) : bearsOn side p r = (e.line.direction.side? == some side && p e.line.name) := by
  unfold Record.headerEvent? at hr
  split at hr
  · next l hl =>
    obtain rfl := Option.some.inj hr
    simp [bearsOn, hl]
  · next l hl =>
    obtain rfl := Option.some.inj hr
    simp [bearsOn, hl]
  · cases hr

/-- A record that bears on some names is a call, a status line or an event of one of them. -/
theorem event_of_bearsOn {side : Side} {p : String → Bool} {r : Record} (h : bearsOn side p r = true) :
    r.payload = .vclCall ∨ (∃ code, r.payload = .status code) ∨
      ∃ e, r.headerEvent? = some e ∧ e.isOf side e.line.name = true ∧ p e.line.name = true := by
  cases he : r.headerEvent? with
  | some e =>
    rw [bearsOn_of_event he] at h
    obtain ⟨hside, hname⟩ := Bool.and_eq_true_iff.mp h
    exact Or.inr (Or.inr ⟨e, rfl, by simpa [HeaderEvent.isOf] using hside, hname⟩)
  | none =>
    cases hr : r.payload with
    | vclCall => exact Or.inl rfl
    | status code => exact Or.inr (Or.inl ⟨code, rfl⟩)
    | header l => simp [Record.headerEvent?, hr] at he
    | unset l => simp [Record.headerEvent?, hr] at he
    | _ => simp [bearsOn, hr] at h

/-- The records that bear on a name: those of its own headers, and those that begin or end processing. -/
def recordsAbout (side : Side) (name : String) (rs : List Record) : List Record :=
  rs.filter (bearsOn side fun other => other == name)

theorem Uniform.of_headerEvents_append {side : Side} {name : String} {rs qs : List Record}
    (h : Uniform (headerEvents side name (rs ++ qs))) : Uniform (headerEvents side name rs) := by
  rw [headerEvents_append] at h
  exact h.of_append

theorem headerEvents_snoc (side : Side) (name : String) (rs : List Record) (r : Record) :
    headerEvents side name (rs ++ [r]) =
      headerEvents side name rs ++ (r.headerEvent?.toList.filter fun e => e.isOf side name) := by
  rw [headerEvents_append]
  cases h : r.headerEvent? <;> simp [headerEvents, h]

theorem headerEvents_snoc_of_isOf {side : Side} {name : String} {r : Record} {e : HeaderEvent}
    (hr : r.headerEvent? = some e) (he : e.isOf side name = true) (rs : List Record) :
    headerEvents side name (rs ++ [r]) = headerEvents side name rs ++ [e] := by
  rw [headerEvents_snoc, hr]
  simp [he]

theorem headerEvents_snoc_of_none {side : Side} {name : String} {r : Record}
    (hr : r.headerEvent? = none) (rs : List Record) :
    headerEvents side name (rs ++ [r]) = headerEvents side name rs := by
  rw [headerEvents_snoc, hr]
  simp

theorem headerEvents_snoc_of_not_isOf {side : Side} {name : String} {r : Record} {e : HeaderEvent}
    (hr : r.headerEvent? = some e) (he : e.isOf side name = false) (rs : List Record) :
    headerEvents side name (rs ++ [r]) = headerEvents side name rs := by
  rw [headerEvents_snoc, hr]
  simp [he]

theorem cases_of_bearsOn {side : Side} {name : String} {r : Record}
    (h : bearsOn side (fun other => other == name) r = true) :
    r.payload = .vclCall ∨ (∃ code, r.payload = .status code) ∨
      ∃ e, r.headerEvent? = some e ∧ e.isOf side name = true := by
  rcases event_of_bearsOn h with hr | hr | ⟨e, hr, he, hname⟩
  · exact Or.inl hr
  · exact Or.inr (Or.inl hr)
  · have hname' : e.line.name = name := by simpa using hname
    exact Or.inr (Or.inr ⟨e, hr, hname' ▸ he⟩)

/-- Leaving out what bears on other names takes no event of the name away. -/
theorem headerEvents_recordsAbout (side : Side) (name : String) (rs : List Record) :
    headerEvents side name (recordsAbout side name rs) = headerEvents side name rs := by
  induction rs with
  | nil => rfl
  | cons r rs ih =>
    have happ (qs : List Record) : headerEvents side name (r :: qs) =
        headerEvents side name [r] ++ headerEvents side name qs := headerEvents_append side name [r] qs
    cases hb : bearsOn side (fun other => other == name) r with
    | true =>
      rw [recordsAbout, List.filter_cons_of_pos hb, happ, happ rs]
      exact congrArg _ ih
    | false =>
      have hnone : headerEvents side name [r] = [] := by
        cases he : r.headerEvent? with
        | none => simp [headerEvents, he]
        | some e =>
          rw [bearsOn_of_event he] at hb
          have hno : e.isOf side name = false := hb
          simp [headerEvents, he, hno]
      rw [recordsAbout, List.filter_cons_of_neg (by simp [hb]), happ rs, hnone, List.nil_append]
      exact ih

namespace DiffState

/-- Reads a header that is set or unset. -/
def onEvent (s : DiffState) (e : HeaderEvent) : DiffState :=
  if e.isUnset then s.onUnset e.line else s.onHeader e.line

theorem processing_onHeader (s : DiffState) (h : HeaderLine) : (s.onHeader h).processing = s.processing := by
  unfold onHeader
  split
  · rfl
  · rfl

theorem processing_onUnset (s : DiffState) (h : HeaderLine) : (s.onUnset h).processing = s.processing := by
  unfold onUnset
  split
  · rfl
  · split
    · rfl
    · split
      · rfl
      · rfl

theorem processing_onEvent (s : DiffState) (e : HeaderEvent) : (s.onEvent e).processing = s.processing := by
  unfold onEvent
  split
  · exact processing_onUnset s e.line
  · exact processing_onHeader s e.line

theorem step_of_event {side : Side} {name : String} {r : Record} {e : HeaderEvent}
    (hr : r.headerEvent? = some e) (he : e.isOf side name = true) (s : DiffState) :
    s.step side r = s.onEvent e := by
  have hside := (HeaderEvent.isOf_iff.mp he).1
  unfold Record.headerEvent? at hr
  split at hr
  · next l hl =>
    obtain rfl := Option.some.inj hr
    have hl' : l.direction.side? = some side := hside
    simp [step, onEvent, hl, hl']
  · next l hl =>
    obtain rfl := Option.some.inj hr
    have hl' : l.direction.side? = some side := hside
    simp [step, onEvent, hl, hl']
  · cases hr

/-! ## The current change -/

/-- The change of a name as it stands: the one that is held back, or else the known one. -/
def current? (s : DiffState) (name : String) : Option HeaderChange :=
  (s.held.get? name).or (s.known.get? name)

/-- The reading is about one name, and the current change of the name is the last mark. -/
structure Tracks (name : String) (s : DiffState) : Prop where
  named : s.Named
  distinct : s.held.keys.Nodup
  about : ∀ m ∈ s.history, m.name = name
  idle : s.processing = true → s.held.get? name = none
  reserved : ∀ c, s.held.get? name = some c →
    s.history.getLast? = some (.reserved name) ∧ s.known.get? name = none
  latest : ∀ c, s.held.get? name = none → s.known.get? name = some c →
    s.history.getLast? = some (.change c)

theorem tracks_start (name : String) : start.Tracks name where
  named := named_start
  distinct := List.nodup_nil
  about := by simp [start]
  idle := fun _ => rfl
  reserved := by simp [start]
  latest := by simp [start]

variable {name : String} {s : DiffState}

/-- Nothing that is known is held back as well. -/
theorem Tracks.known_of_held (hs : s.Tracks name) {c : HeaderChange} (hc : s.held.get? name = some c) :
    s.known.get? name = none :=
  (hs.reserved c hc).2

theorem current?_of_known (hk : s.known.get? name = none) : s.current? name = s.held.get? name := by
  rw [current?, hk, Option.or_none]

theorem current?_of_held (hh : s.held.get? name = none) : s.current? name = s.known.get? name := by
  rw [current?, hh, Option.none_or]

/-! ## Notes, holds and calls -/

theorem Tracks.record (hs : s.Tracks name) {c : HeaderChange} (hc : c.name = name)
    (hh : s.held.get? name = none) : (s.record c).Tracks name where
  named := hs.named.record c
  distinct := hs.distinct
  about := by
    intro m hm
    rcases List.mem_append.mp hm with hm | hm
    · exact hs.about m hm
    · rw [List.mem_singleton.mp hm]
      exact hc
  idle := fun _ => hh
  reserved := by
    intro d hd
    exact absurd (hh.symm.trans hd) (by simp)
  latest := by
    intro d _ hd
    have hd' : (s.known.insert c.name c).get? name = some d := hd
    rw [← hc, OrderedMap.get?_insert_self] at hd'
    obtain rfl := Option.some.inj hd'
    exact List.getLast?_concat

theorem current?_record {c : HeaderChange} (hc : c.name = name) (hh : s.held.get? name = none) :
    (s.record c).current? name = some c := by
  have h := current?_of_held (s := s.record c) hh
  rw [h, ← hc]
  exact OrderedMap.get?_insert_self _ _ _

theorem Tracks.hold (hs : s.Tracks name) {c : HeaderChange} (hc : c.name = name)
    (hp : s.processing = false) (hk : s.known.get? name = none) : (s.hold c).Tracks name where
  named := hs.named.hold c
  distinct := OrderedMap.nodup_keys_alter hs.distinct _ _
  about := by
    intro m hm
    simp only [DiffState.hold] at hm
    split at hm
    · exact hs.about m hm
    · rcases List.mem_append.mp hm with hm | hm
      · exact hs.about m hm
      · rw [List.mem_singleton.mp hm]
        exact hc
  idle := fun h => absurd (hp.symm.trans h) (by simp)
  reserved := by
    intro d hd
    refine ⟨?_, hk⟩
    simp only [DiffState.hold, hc]
    cases hh : s.held.get? name with
    | none => simp [OrderedMap.contains, hh]
    | some b => simpa [OrderedMap.contains, hh] using (hs.reserved b hh).1
  latest := by
    intro d hd
    have hd' : (s.held.insert c.name c).get? name = none := hd
    rw [← hc, OrderedMap.get?_insert_self] at hd'
    cases hd'

theorem current?_hold {c : HeaderChange} (hc : c.name = name) (hk : s.known.get? name = none) :
    (s.hold c).current? name = some c := by
  have h := current?_of_known (s := s.hold c) hk
  rw [h, ← hc]
  exact OrderedMap.get?_insert_self _ _ _

theorem get?_known_flush (hd : s.held.keys.Nodup) (name : String) :
    s.flush.known.get? name = s.current? name :=
  OrderedMap.get?_insertAll s.known hd name

theorem current?_flush (hd : s.held.keys.Nodup) (name : String) :
    s.flush.current? name = s.current? name := by
  rw [current?_of_held (s := s.flush) rfl, get?_known_flush hd]

theorem Tracks.flush (hs : s.Tracks name) : s.flush.Tracks name where
  named := hs.named.flush
  distinct := List.nodup_nil
  about := by
    intro m hm
    obtain ⟨m', hm', rfl⟩ := List.mem_map.mp hm
    rw [name_fill hs.named.held]
    exact hs.about m' hm'
  idle := fun _ => rfl
  reserved := by
    intro d hd
    cases hd
  latest := by
    intro d _ hd
    rw [get?_known_flush hs.distinct] at hd
    have hlast : s.flush.history.getLast? = s.history.getLast?.map (fill s.held) := List.getLast?_map
    rw [hlast]
    cases hh : s.held.get? name with
    | none =>
      rw [current?_of_held hh] at hd
      rw [hs.latest d hh hd]
      rfl
    | some c =>
      rw [current?_of_known (hs.known_of_held hh), hh] at hd
      rw [(hs.reserved c hh).1, Option.map_some, fill, hh, Option.some.inj hd]

theorem Tracks.onCall (hs : s.Tracks name) : s.onCall.Tracks name := by
  unfold DiffState.onCall
  split
  · exact hs
  · have hf := hs.flush
    exact ⟨⟨hf.named.known, hf.named.held⟩, hf.distinct, hf.about, fun _ => rfl, hf.reserved, hf.latest⟩

theorem current?_onCall (hd : s.held.keys.Nodup) (name : String) :
    s.onCall.current? name = s.current? name := by
  unfold DiffState.onCall
  split
  · rfl
  · exact current?_flush hd name

theorem Tracks.stop (hs : s.Tracks name) : { s with processing := false }.Tracks name :=
  ⟨⟨hs.named.known, hs.named.held⟩, hs.distinct, hs.about, fun h => absurd h (by simp), hs.reserved, hs.latest⟩

/-! ## Events -/

/-- The proxy manages the headers of an event if it holds back earlier ones of the name. -/
def Admits (s : DiffState) (h : HeaderLine) : Prop := ∀ c, s.held.get? h.name = some c → h.isManaged = true

variable {h : HeaderLine}

/-- An event that is not held back finds nothing held. -/
theorem Tracks.held_of_not_holdsBack (hs : s.Tracks h.name) (ha : s.Admits h)
    (hb : s.holdsBack h = false) : s.held.get? h.name = none := by
  cases hh : s.held.get? h.name with
  | none => rfl
  | some c =>
    have hp : s.processing = false := by
      cases hp : s.processing with
      | false => rfl
      | true => exact absurd ((hs.idle hp).symm.trans hh) (by simp)
    have hk := hs.known_of_held hh
    simp [holdsBack, hp, OrderedMap.contains, hk, ha c hh] at hb

theorem of_holdsBack (hb : s.holdsBack h = true) :
    s.processing = false ∧ s.known.get? h.name = none ∧ h.isManaged = true := by
  simpa [holdsBack, OrderedMap.contains, and_assoc] using hb

theorem Tracks.onHeader (hs : s.Tracks h.name) (ha : s.Admits h) : (s.onHeader h).Tracks h.name := by
  unfold DiffState.onHeader
  cases hb : s.holdsBack h with
  | true =>
    obtain ⟨hp, hk, -⟩ := of_holdsBack hb
    exact hs.hold rfl hp hk
  | false => exact hs.record rfl (hs.held_of_not_holdsBack ha hb)

/-- After a header that is set, the name has its value, and the value of the change before it came in. -/
theorem current?_onHeader (hs : s.Tracks h.name) (ha : s.Admits h) :
    (s.onHeader h).current? h.name = some
      { name := h.name
        incoming := ((s.current? h.name).map (·.incoming)).getD h.value
        final := h.value
        state :=
          if !s.processing then .received
          else if (s.current? h.name).any (·.cameIn) then .modified
          else .added } := by
  unfold DiffState.onHeader
  cases hb : s.holdsBack h with
  | true =>
    obtain ⟨hp, hk, -⟩ := of_holdsBack hb
    rw [if_pos rfl, current?_hold rfl hk, current?_of_known hk, hp]
    rfl
  | false =>
    have hh := hs.held_of_not_holdsBack ha hb
    rw [if_neg (by simp), current?_record rfl hh, current?_of_held hh]

theorem Tracks.onUnset (hs : s.Tracks h.name) (ha : s.Admits h) : (s.onUnset h).Tracks h.name := by
  unfold DiffState.onUnset
  cases hb : s.holdsBack h with
  | true =>
    obtain ⟨hp, hk, -⟩ := of_holdsBack hb
    exact hs.hold rfl hp hk
  | false =>
    have hh := hs.held_of_not_holdsBack ha hb
    rw [if_neg (by simp)]
    cases hk : s.known.get? h.name with
    | none => exact hs
    | some previous =>
      simp only
      split
      · exact hs.record rfl hh
      · refine ⟨⟨hs.named.known.erase _, hs.named.held⟩, hs.distinct, hs.about, hs.idle, ?_, ?_⟩
        · intro c hc
          exact absurd (hh.symm.trans hc) (by simp)
        · intro c _ hc
          have hc' : (s.known.erase h.name).get? h.name = some c := hc
          rw [OrderedMap.get?_erase_self] at hc'
          cases hc'

/-- After an unset, a name that came in is deleted, and any other is as if it had not been there. -/
theorem current?_onUnset (hs : s.Tracks h.name) (ha : s.Admits h) :
    (s.onUnset h).current? h.name =
      if s.holdsBack h then some ⟨h.name, h.value, h.value, .deleted⟩
      else (s.current? h.name).bind fun previous =>
        if previous.cameIn then some ⟨h.name, previous.incoming, h.value, .deleted⟩ else none := by
  unfold DiffState.onUnset
  cases hb : s.holdsBack h with
  | true =>
    obtain ⟨-, hk, -⟩ := of_holdsBack hb
    rw [if_pos rfl, if_pos rfl, current?_hold rfl hk]
  | false =>
    have hh := hs.held_of_not_holdsBack ha hb
    rw [if_neg (by simp), if_neg (by simp), current?_of_held hh]
    cases hk : s.known.get? h.name with
    | none => rw [current?_of_held hh, hk, Option.bind_none]
    | some previous =>
      rw [Option.bind_some]
      simp only
      split
      · exact current?_record rfl hh
      · have herase : { s with known := s.known.erase h.name }.held.get? h.name = none := hh
        rw [current?_of_held herase]
        exact OrderedMap.get?_erase_self _ _

theorem Tracks.onEvent {e : HeaderEvent} (hs : s.Tracks e.line.name) (ha : s.Admits e.line) :
    (s.onEvent e).Tracks e.line.name := by
  unfold DiffState.onEvent
  split
  · exact hs.onUnset ha
  · exact hs.onHeader ha

/-- What an event leaves held back was held back before, or the event is one of a managed header. -/
theorem held_onEvent {e : HeaderEvent} {c : HeaderChange}
    (hc : (s.onEvent e).held.get? name = some c) : s.held.get? name = some c ∨ e.line.isManaged = true := by
  cases hb : s.holdsBack e.line with
  | true => exact Or.inr (of_holdsBack hb).2.2
  | false =>
    refine Or.inl ?_
    rw [DiffState.onEvent, DiffState.onUnset, DiffState.onHeader, hb] at hc
    cases he : e.isUnset with
    | false => simpa [he, DiffState.record] using hc
    | true =>
      cases hk : s.known.get? e.line.name with
      | none => simpa [he, hk] using hc
      | some previous => cases hcame : previous.cameIn <;> simpa [he, hk, hcame, DiffState.record] using hc

/-! ## Runs -/

/-- What is known after some records. -/
def reading (side : Side) (rs : List Record) : DiffState := rs.foldl (step side) start

theorem reading_snoc (side : Side) (rs : List Record) (r : Record) :
    reading side (rs ++ [r]) = (reading side rs).step side r := by
  rw [reading, List.foldl_append]
  rfl

/-- A call changes nothing that is known of a name, whether it opens the side or not. -/
theorem step_of_call {side : Side} {r : Record} (hr : r.payload = .vclCall) (s : DiffState) :
    s.step side r = s.onCall ∨ s.step side r = s := by
  simp only [step, hr]
  split
  · exact Or.inl rfl
  · exact Or.inr rfl

theorem step_of_status {side : Side} {r : Record} {code : Int} (hr : r.payload = .status code)
    (s : DiffState) : s.step side r = { s with processing := false } := by
  simp only [step, hr]

/-- The records of a list all bear on a name. -/
def AllAbout (side : Side) (name : String) (rs : List Record) : Prop :=
  ∀ r ∈ rs, bearsOn side (fun other => other == name) r = true

theorem allAbout_recordsAbout (side : Side) (name : String) (rs : List Record) :
    AllAbout side name (recordsAbout side name rs) :=
  fun _ hr => (List.mem_filter.mp hr).2

variable {side : Side}

theorem AllAbout.of_append {rs qs : List Record} (h : AllAbout side name (rs ++ qs)) : AllAbout side name rs :=
  fun r hr => h r (List.mem_append_left qs hr)

theorem admits_of_held {rs : List Record} {r : Record} {e : HeaderEvent} (hr : r.headerEvent? = some e)
    (he : e.isOf side e.line.name = true) (hu : Uniform (headerEvents side e.line.name (rs ++ [r])))
    (hheld : ∀ c, (reading side rs).held.get? e.line.name = some c →
      ∃ f ∈ headerEvents side e.line.name rs, f.line.isManaged = true) :
    (reading side rs).Admits e.line := by
  rw [headerEvents_snoc_of_isOf hr he] at hu
  intro c hc
  obtain ⟨f, hf, hm⟩ := hheld c hc
  rw [hu e (by simp) f (List.mem_append_left _ hf), hm]

/-- A reading of records about one name keeps track of the name, and holds back managed headers only. -/
theorem tracks_reading {rs : List Record} (hall : AllAbout side name rs)
    (hu : Uniform (headerEvents side name rs)) :
    (reading side rs).Tracks name ∧
      ∀ c, (reading side rs).held.get? name = some c →
        ∃ e ∈ headerEvents side name rs, e.line.isManaged = true := by
  induction rs using List.reverseRecOn with
  | nil => exact ⟨tracks_start name, by simp [reading, start]⟩
  | append_singleton rs r ih =>
    obtain ⟨hs, hheld⟩ := ih hall.of_append hu.of_headerEvents_append
    -- Earlier events stay events, so only a record that holds something back has to give a new one.
    have hold : ∀ c, (reading side rs).held.get? name = some c →
        ∃ e ∈ headerEvents side name (rs ++ [r]), e.line.isManaged = true := by
      intro c hc
      obtain ⟨e, he, hm⟩ := hheld c hc
      exact ⟨e, by rw [headerEvents_append]; exact List.mem_append_left _ he, hm⟩
    rw [reading_snoc]
    rcases cases_of_bearsOn (hall r (by simp)) with hr | ⟨code, hr⟩ | ⟨e, hr, he⟩
    · rcases step_of_call hr (reading side rs) with h1 | h1
      · rw [h1]
        refine ⟨hs.onCall, ?_⟩
        intro c hc
        unfold onCall at hc
        split at hc
        · exact hold c hc
        · cases hc
      · rw [h1]
        exact ⟨hs, hold⟩
    · rw [step_of_status hr]
      exact ⟨hs.stop, hold⟩
    · obtain ⟨-, rfl⟩ := HeaderEvent.isOf_iff.mp he
      have hmem : e ∈ headerEvents side e.line.name (rs ++ [r]) := by
        rw [headerEvents_snoc_of_isOf hr he]
        simp
      rw [step_of_event hr he]
      refine ⟨hs.onEvent (admits_of_held hr he hu hheld), ?_⟩
      intro c hc
      rcases held_onEvent hc with hc | hm
      · exact hold c hc
      · exact ⟨e, hmem, hm⟩

/-- An event meets a reading that admits it. -/
theorem admits_reading {rs : List Record} {r : Record} {e : HeaderEvent}
    (hall : AllAbout side e.line.name (rs ++ [r])) (hr : r.headerEvent? = some e)
    (he : e.isOf side e.line.name = true) (hu : Uniform (headerEvents side e.line.name (rs ++ [r]))) :
    (reading side rs).Admits e.line := by
  obtain ⟨-, hheld⟩ := tracks_reading hall.of_append hu.of_headerEvents_append
  exact admits_of_held hr he hu hheld

end DiffState

/-! ## The result -/

theorem lastChanges_of_not_contains {name : String} {known : OrderedMap String HeaderChange}
    {history : List Mark} (ha : ∀ m ∈ history, m.name = name) (hk : known.get? name = none) :
    lastChanges known history = [] := by
  induction history with
  | nil => rfl
  | cons m rest ih =>
    have hrest := ih fun m hm => ha m (List.mem_cons_of_mem _ hm)
    cases m with
    | reserved other => exact hrest
    | change c =>
      have hc : c.name = name := ha (.change c) List.mem_cons_self
      have hno : known.contains c.name = false := by rw [OrderedMap.contains, hc, hk]; rfl
      rw [lastChanges_change, hno, Bool.false_and, if_neg (by simp), hrest]

/-- In a history of one name that is known, the last mark is the result. -/
theorem lastChanges_of_getLast? {name : String} {known : OrderedMap String HeaderChange}
    {history : List Mark} {c : HeaderChange} (ha : ∀ m ∈ history, m.name = name)
    (hk : known.get? name = some c) (hl : history.getLast? = some (.change c)) :
    lastChanges known history = [c] := by
  induction history with
  | nil => cases hl
  | cons m rest ih =>
    cases hr : rest with
    | nil =>
      rw [hr, List.getLast?_singleton] at hl
      obtain rfl := Option.some.inj hl
      have hc : c.name = name := ha (.change c) List.mem_cons_self
      have hyes : known.contains c.name = true := by rw [OrderedMap.contains, hc, hk]; rfl
      rw [lastChanges_change, hyes]
      rfl
    | cons m' rest' =>
      have hl' : rest.getLast? = some (.change c) := by
        rw [hr] at hl ⊢
        rw [← hl, List.getLast?_cons_cons]
      have hrest := ih (fun m hm => ha m (List.mem_cons_of_mem _ hm)) hl'
      rw [← hr]
      cases m with
      | reserved other => exact hrest
      | change d =>
        have hd : d.name = name := ha (.change d) List.mem_cons_self
        have hc : c.name = name := ha (.change c) (List.mem_cons_of_mem _ (List.mem_of_getLast? hl'))
        have hlater : rest.any (Mark.changes d.name) = true := by
          rw [List.any_eq_true]
          exact ⟨.change c, List.mem_of_getLast? hl', by simp [Mark.changes, hc, hd]⟩
        rw [lastChanges_change, hlater, Bool.not_true, Bool.and_false, if_neg (by simp), hrest]

/-- The changes of one name are its current change at the end of the records about it. -/
theorem filter_headerChanges {side : Side} {name : String} {rs : List Record}
    (hu : Uniform (headerEvents side name rs)) :
    (headerChanges side rs).filter (fun c => c.name == name) =
      ((DiffState.reading side (recordsAbout side name rs)).current? name).toList := by
  have hrun := DiffState.restrict_foldl (p := fun other => other == name) DiffState.named_start side rs
  have hpart := DiffState.changes_restrict (DiffState.named_start.foldl side rs) fun other => other == name
  rw [hrun] at hpart
  refine hpart.symm.trans ?_
  have hall := DiffState.allAbout_recordsAbout side name rs
  rw [← headerEvents_recordsAbout] at hu
  obtain ⟨hs, -⟩ := DiffState.tracks_reading hall hu
  have hf := hs.flush
  change lastChanges (DiffState.reading side (recordsAbout side name rs)).flush.known
    (DiffState.reading side (recordsAbout side name rs)).flush.history = _
  have hknown := DiffState.get?_known_flush hs.distinct name
  cases hc : (DiffState.reading side (recordsAbout side name rs)).current? name with
  | none =>
    rw [hc] at hknown
    exact lastChanges_of_not_contains hf.about hknown
  | some c =>
    rw [hc] at hknown
    exact lastChanges_of_getLast? hf.about hknown (hf.latest c rfl hknown)

end ProxyLog
