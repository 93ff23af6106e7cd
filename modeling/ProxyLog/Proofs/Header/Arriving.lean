import ProxyLog.Proofs.Header.Account
import ProxyLog.Proofs.Header.Name
import ProxyLog.Transaction.Run

/-!
# Headers that come in

The headers of a side come in from the start of a log, and again from each status line, up to the next
call that opens the side. For the request these are the client phases, since every call opens it.

* `isArriving side rs`, `incomingRecords side rs`: whether headers come in after some records, and the
  records that find them coming in.
* `ArrivesOnce side rs`: the headers of the side come in once only.
* `HeaderChange.afterSet`, `HeaderChange.afterUnset`: a change after one more header of its name.
* `current?_reading_cases`: the current change of an ordinary name after one more record.
* `any_cameIn_reading`: an ordinary name came in just when a header of it was set while headers came in.
* `mem_incomingHeaders_iff`, `filter_incomingHeaders`: the incoming headers of a name.
-/

set_option autoImplicit false

namespace ProxyLog

/-! ## Phases of a side -/

/-- Whether headers of a side come in after a record, if they do or do not before it. -/
def arrivingAfter (side : Side) (arriving : Bool) (r : Record) : Bool :=
  match r.payload with
  | .vclCall => arriving && !opensSide r.value side
  | .status _ => true
  | _ => arriving

def isArriving (side : Side) (rs : List Record) : Bool := rs.foldl (arrivingAfter side) true

def incomingRecordsFrom (side : Side) (arriving : Bool) : List Record → List Record
  | [] => []
  | r :: rs => (if arriving then [r] else []) ++ incomingRecordsFrom side (arrivingAfter side arriving r) rs

/-- The records that find headers of the side coming in. -/
def incomingRecords (side : Side) (rs : List Record) : List Record := incomingRecordsFrom side true rs

variable {side : Side} {name : String} {rs : List Record} {r : Record} {h : HeaderLine}

theorem isArriving_snoc (side : Side) (rs : List Record) (r : Record) :
    isArriving side (rs ++ [r]) = arrivingAfter side (isArriving side rs) r := by
  rw [isArriving, List.foldl_append]
  rfl

theorem incomingRecordsFrom_snoc (side : Side) (arriving : Bool) (rs : List Record) (r : Record) :
    incomingRecordsFrom side arriving (rs ++ [r]) =
      incomingRecordsFrom side arriving rs ++ if rs.foldl (arrivingAfter side) arriving then [r] else [] := by
  induction rs generalizing arriving with
  | nil => cases arriving <;> rfl
  | cons q rs ih =>
    rw [List.cons_append, incomingRecordsFrom, ih, ← List.append_assoc]
    rfl

theorem incomingRecords_snoc (side : Side) (rs : List Record) (r : Record) :
    incomingRecords side (rs ++ [r]) =
      incomingRecords side rs ++ if isArriving side rs then [r] else [] :=
  incomingRecordsFrom_snoc side true rs r

theorem incomingRecords_sublist (side : Side) (rs : List Record) : (incomingRecords side rs).Sublist rs := by
  induction rs using List.reverseRecOn with
  | nil => exact List.Sublist.refl _
  | append_singleton rs r ih =>
    rw [incomingRecords_snoc]
    refine ih.append ?_
    split
    · exact List.Sublist.refl _
    · exact List.nil_sublist _

theorem setValues_sublist {qs : List Record} (side : Side) (name : String) (h : qs.Sublist rs) :
    (setValues side name qs).Sublist (setValues side name rs) :=
  (((h.filterMap _).filter _).filter _).map _

/-- Headers of a side come in as long as no call opens it. -/
theorem isArriving_of_closed (h : ∀ r ∈ rs, r.opens side = false) : isArriving side rs = true := by
  induction rs using List.reverseRecOn with
  | nil => rfl
  | append_singleton rs r ih =>
    have hr := h r (by simp)
    rw [isArriving_snoc, ih fun q hq => h q (by simp [hq])]
    unfold arrivingAfter
    split
    · next hcall => simpa [Record.opens, hcall] using hr
    · rfl
    · rfl

/-- No status line starts the message over once a side is open. -/
def ArrivesOnce (side : Side) (rs : List Record) : Prop :=
  rs.Pairwise fun call r => call.opens side = true → r.family ≠ .status

instance (side : Side) (rs : List Record) : Decidable (ArrivesOnce side rs) := by
  unfold ArrivesOnce
  infer_instance

theorem ArrivesOnce.of_snoc (h : ArrivesOnce side (rs ++ [r])) : ArrivesOnce side rs :=
  (List.pairwise_append.mp h).1

/-- In a message that is not started over, headers that come in after a record came in before it. -/
theorem isArriving_of_snoc (honce : ArrivesOnce side (rs ++ [r])) (h : isArriving side (rs ++ [r]) = true) :
    isArriving side rs = true := by
  obtain ⟨-, -, hlast⟩ := List.pairwise_append.mp honce
  rw [isArriving_snoc] at h
  unfold arrivingAfter at h
  split at h
  · exact (Bool.and_eq_true_iff.mp h).1
  · next code hstatus =>
    -- No call before a status line opens the side.
    refine isArriving_of_closed fun q hq => ?_
    rw [Bool.eq_false_iff]
    intro hopens
    exact hlast q hq r (by simp) hopens (by rw [Record.family, hstatus]; rfl)
  · exact h

/-- Every call opens the request, so its headers come in during the client phases. -/
theorem headerEvents_clientRecordsFrom (side : Side) (name : String) (clientPhase : Bool) (rs : List Record) :
    headerEvents side name (clientRecordsFrom clientPhase rs) =
      headerEvents side name (incomingRecordsFrom .request clientPhase rs) := by
  induction rs generalizing clientPhase with
  | nil => rfl
  | cons r rs ih =>
    have hquiet (he : r.headerEvent? = none) : headerEvents side name (if clientPhase then [r] else []) = [] := by
      cases clientPhase <;> simp [headerEvents, he]
    rw [incomingRecordsFrom, headerEvents_append]
    unfold clientRecordsFrom
    split
    · next hp =>
      have hafter : arrivingAfter .request clientPhase r = false := by simp [arrivingAfter, hp, opensSide]
      rw [hquiet (by simp [Record.headerEvent?, hp]), hafter, ih, List.nil_append]
    · next hp =>
      have hafter : arrivingAfter .request clientPhase r = true := by simp [arrivingAfter, hp]
      rw [hquiet (by simp [Record.headerEvent?, hp]), hafter, ih, List.nil_append]
    · next hcall hstatus =>
      have hafter : arrivingAfter .request clientPhase r = clientPhase := by
        unfold arrivingAfter
        split
        · next hp => exact absurd hp hcall
        · next code hp => exact absurd hp (hstatus code)
        · rfl
      rw [headerEvents_append, ih, hafter]

theorem headerEvents_clientRecords (side : Side) (name : String) (rs : List Record) :
    headerEvents side name (clientRecords rs) = headerEvents side name (incomingRecords .request rs) :=
  headerEvents_clientRecordsFrom side name true rs

theorem setValues_clientRecords (side : Side) (name : String) (rs : List Record) :
    setValues side name (clientRecords rs) = setValues side name (incomingRecords .request rs) := by
  rw [setValues, setValues, headerEvents_clientRecords]

theorem unsetValues_clientRecords (side : Side) (name : String) (rs : List Record) :
    unsetValues side name (clientRecords rs) = unsetValues side name (incomingRecords .request rs) := by
  rw [unsetValues, unsetValues, headerEvents_clientRecords]

/-! ## Values that come in -/

theorem setValues_incomingRecords_snoc (phase side : Side) (name : String) (rs : List Record) (r : Record) :
    setValues side name (incomingRecords phase (rs ++ [r])) =
      setValues side name (incomingRecords phase rs) ++
        if isArriving phase rs then setValues side name [r] else [] := by
  rw [incomingRecords_snoc, setValues_append]
  cases isArriving phase rs <;> rfl

theorem unsetValues_incomingRecords_snoc (phase side : Side) (name : String) (rs : List Record) (r : Record) :
    unsetValues side name (incomingRecords phase (rs ++ [r])) =
      unsetValues side name (incomingRecords phase rs) ++
        if isArriving phase rs then unsetValues side name [r] else [] := by
  rw [incomingRecords_snoc, unsetValues_append]
  cases isArriving phase rs <;> rfl

theorem headerEvents_singleton_of_not (hr : ∀ e, r.headerEvent? = some e → e.isOf side name = false) :
    headerEvents side name [r] = [] := by
  cases he : r.headerEvent? with
  | none => simp [headerEvents, he]
  | some e => simp [headerEvents, he, hr e he]

theorem values_singleton_of_event {unset : Bool} (hr : r.headerEvent? = some ⟨h, unset⟩)
    (hside : h.direction.side? = some side) :
    setValues side h.name [r] = (if unset then [] else [h.value]) ∧
      unsetValues side h.name [r] = if unset then [h.value] else [] := by
  have hof : (⟨h, unset⟩ : HeaderEvent).isOf side h.name = true := HeaderEvent.isOf_iff.mpr ⟨hside, rfl⟩
  cases unset <;> simp [setValues, unsetValues, headerEvents, hr, hof]

theorem values_singleton_of_not (hr : ∀ e, r.headerEvent? = some e → e.isOf side name = false) :
    setValues side name [r] = [] ∧ unsetValues side name [r] = [] := by
  rw [setValues, unsetValues, headerEvents_singleton_of_not hr]
  exact ⟨rfl, rfl⟩

/-! ## The change of a name, record by record -/

/-- A record sets a header of a name, or unsets one, or is no event of the name. -/
theorem eventCases (side : Side) (name : String) (r : Record) :
    (∃ h, r.headerEvent? = some ⟨h, false⟩ ∧ h.direction.side? = some side ∧ h.name = name) ∨
      (∃ h, r.headerEvent? = some ⟨h, true⟩ ∧ h.direction.side? = some side ∧ h.name = name) ∨
      ∀ e, r.headerEvent? = some e → e.isOf side name = false := by
  by_cases hof : ∃ e, r.headerEvent? = some e ∧ e.isOf side name = true
  · obtain ⟨⟨h, unset⟩, hr, he⟩ := hof
    obtain ⟨hside, hname⟩ := HeaderEvent.isOf_iff.mp he
    cases unset with
    | false => exact Or.inl ⟨h, hr, hside, hname⟩
    | true => exact Or.inr (Or.inl ⟨h, hr, hside, hname⟩)
  · refine Or.inr (Or.inr fun e hr => ?_)
    rw [Bool.eq_false_iff]
    exact fun he => hof ⟨e, hr, he⟩

namespace HeaderChange

/-- The value with which a header came in, if it did. -/
def incomingValue? (c : HeaderChange) : Option String := if c.cameIn then some c.incoming else none

/-- The change of a name after a header of it is set. -/
def afterSet (arriving : Bool) (previous? : Option HeaderChange) (h : HeaderLine) : HeaderChange where
  name := h.name
  incoming := (previous?.map (·.incoming)).getD h.value
  final := h.value
  state := if arriving then .received else if previous?.any (·.cameIn) then .modified else .added

/-- The change of a name after a header of it is unset: one that did not come in is forgotten. -/
def afterUnset (previous? : Option HeaderChange) (h : HeaderLine) : Option HeaderChange :=
  previous?.bind fun previous =>
    if previous.cameIn then some ⟨h.name, previous.incoming, h.value, .deleted⟩ else none

variable {arriving : Bool} {previous? : Option HeaderChange} {c : HeaderChange}

theorem cameIn_afterSet (arriving : Bool) (previous? : Option HeaderChange) (h : HeaderLine) :
    (afterSet arriving previous? h).cameIn = (arriving || previous?.any (·.cameIn)) := by
  rw [cameIn, afterSet]
  cases arriving <;> cases previous?.any (·.cameIn) <;> rfl

theorem received_afterSet_iff (arriving : Bool) (previous? : Option HeaderChange) (h : HeaderLine) :
    (afterSet arriving previous? h).state = .received ↔ arriving = true := by
  rw [afterSet]
  cases arriving <;> cases previous?.any (·.cameIn) <;> simp

theorem state_of_afterUnset (hc : afterUnset previous? h = some c) : c.state = .deleted := by
  obtain ⟨previous, -, hprevious⟩ := Option.bind_eq_some_iff.mp hc
  split at hprevious
  · obtain rfl := Option.some.inj hprevious
    rfl
  · cases hprevious

theorem any_cameIn_afterUnset (previous? : Option HeaderChange) (h : HeaderLine) :
    (afterUnset previous? h).any (·.cameIn) = previous?.any (·.cameIn) := by
  cases previous? with
  | none => rfl
  | some previous =>
    rw [afterUnset, Option.bind_some, Option.any_some]
    cases previous.cameIn <;> rfl

theorem incomingValue?_afterUnset (previous? : Option HeaderChange) (h : HeaderLine) :
    (afterUnset previous? h).bind (·.incomingValue?) = previous?.bind (·.incomingValue?) := by
  cases previous? with
  | none => rfl
  | some previous =>
    rw [afterUnset, Option.bind_some, Option.bind_some, incomingValue?]
    cases previous.cameIn <;> rfl

/-- A header that is set leaves the value that came in, and is one that comes in where nothing was known. -/
theorem incomingValue?_afterSet (hfresh : arriving = true → ∀ c, previous? = some c → c.cameIn = true)
    (h : HeaderLine) :
    (afterSet arriving previous? h).incomingValue? =
      (previous?.bind (·.incomingValue?)).or (if arriving then some h.value else none) := by
  rw [incomingValue?, cameIn_afterSet]
  cases previous? with
  | none => cases arriving <;> rfl
  | some previous =>
    rw [Option.any_some, Option.bind_some, incomingValue?]
    cases hcame : previous.cameIn with
    | true =>
      rw [Bool.or_true]
      rfl
    | false =>
      cases arriving with
      | true => exact absurd (hfresh rfl previous rfl) (by simp [hcame])
      | false => rfl

end HeaderChange

namespace DiffState

theorem Named.name_of_current? {s : DiffState} (hs : s.Named) {c : HeaderChange} (hc : s.current? name = some c) :
    c.name = name := by
  rcases Option.or_eq_some_iff.mp hc with h | ⟨-, h⟩
  · exact hs.held.get? h
  · exact hs.known.get? h

theorem processing_step (side : Side) (s : DiffState) (r : Record) :
    (s.step side r).processing = !arrivingAfter side (!s.processing) r := by
  cases hr : r.payload with
  | vclCall =>
    simp only [step, arrivingAfter, hr]
    cases opensSide r.value side with
    | true => simpa using processing_onCall s
    | false => simp
  | status code => simp [step, arrivingAfter, hr]
  | header h =>
    simp only [step, arrivingAfter, hr, Bool.not_not]
    split
    · exact processing_onHeader s h
    · rfl
  | unset h =>
    simp only [step, arrivingAfter, hr, Bool.not_not]
    split
    · exact processing_onUnset s h
    · rfl
  | _ => simp [step, arrivingAfter, hr]

theorem processing_reading (side : Side) (rs : List Record) :
    (reading side rs).processing = !isArriving side rs := by
  induction rs using List.reverseRecOn with
  | nil => rfl
  | append_singleton rs r ih => rw [reading_snoc, isArriving_snoc, processing_step, ih, Bool.not_not]

theorem current?_reading_recordsAbout (side : Side) (name : String) (rs : List Record) :
    (reading side (recordsAbout side name rs)).current? name = (reading side rs).current? name := by
  rw [reading_recordsAbout, current?_restrict]

theorem current?_reading_event {e : HeaderEvent} (hr : r.headerEvent? = some e)
    (he : e.isOf side e.line.name = true) (hu : Uniform (headerEvents side e.line.name (rs ++ [r]))) :
    (reading side (recordsAbout side e.line.name rs)).Tracks e.line.name ∧
      (reading side (recordsAbout side e.line.name rs)).Admits e.line ∧
      (reading side (rs ++ [r])).current? e.line.name =
        ((reading side (recordsAbout side e.line.name rs)).onEvent e).current? e.line.name := by
  have hbears : bearsOn side (fun other => other == e.line.name) r = true := by
    rw [bearsOn_of_event hr]
    exact he
  have hsplit : recordsAbout side e.line.name (rs ++ [r]) = recordsAbout side e.line.name rs ++ [r] := by
    simp [recordsAbout, hbears]
  have hall := allAbout_recordsAbout side e.line.name (rs ++ [r])
  rw [← headerEvents_recordsAbout] at hu
  rw [hsplit] at hall hu
  refine ⟨(tracks_reading hall.of_append hu.of_headerEvents_append).1, admits_reading hall hr he hu, ?_⟩
  rw [← current?_reading_recordsAbout, hsplit, reading_snoc, step_of_event hr he]

theorem current?_reading_header (hr : r.headerEvent? = some ⟨h, false⟩) (hside : h.direction.side? = some side)
    (hu : Uniform (headerEvents side h.name (rs ++ [r]))) :
    (reading side (rs ++ [r])).current? h.name =
      some (.afterSet (isArriving side rs) ((reading side rs).current? h.name) h) := by
  have he : (⟨h, false⟩ : HeaderEvent).isOf side h.name = true := HeaderEvent.isOf_iff.mpr ⟨hside, rfl⟩
  obtain ⟨hs, ha, heq⟩ := current?_reading_event hr he hu
  have hphase : (reading side (recordsAbout side h.name rs)).processing = !isArriving side rs := by
    rw [reading_recordsAbout]
    exact processing_reading side rs
  have hset := current?_onHeader hs ha
  rw [current?_reading_recordsAbout, hphase, Bool.not_not] at hset
  exact heq.trans hset

theorem current?_reading_unset (hr : r.headerEvent? = some ⟨h, true⟩) (hside : h.direction.side? = some side)
    (hm : h.isManaged = false) (hu : Uniform (headerEvents side h.name (rs ++ [r]))) :
    (reading side (rs ++ [r])).current? h.name =
      HeaderChange.afterUnset ((reading side rs).current? h.name) h := by
  have he : (⟨h, true⟩ : HeaderEvent).isOf side h.name = true := HeaderEvent.isOf_iff.mpr ⟨hside, rfl⟩
  obtain ⟨hs, ha, heq⟩ := current?_reading_event hr he hu
  have hback : (reading side (recordsAbout side h.name rs)).holdsBack h = false := by
    rw [holdsBack, hm, Bool.and_false]
  have hunset := current?_onUnset hs ha
  rw [current?_reading_recordsAbout, hback, if_neg (by simp)] at hunset
  exact heq.trans hunset

theorem current?_reading_other (hr : ∀ e, r.headerEvent? = some e → e.isOf side name = false)
    (hu : Uniform (headerEvents side name rs)) :
    (reading side (rs ++ [r])).current? name = (reading side rs).current? name := by
  have hs := (tracks_reading (allAbout_recordsAbout side name rs) (by rwa [headerEvents_recordsAbout])).1
  rw [← current?_reading_recordsAbout, ← current?_reading_recordsAbout side name rs, recordsAbout,
    List.filter_append, ← recordsAbout]
  cases hb : bearsOn side (fun other => other == name) r with
  | false => simp [hb]
  | true =>
    rw [List.filter_cons_of_pos hb, List.filter_nil, reading_snoc]
    rcases cases_of_bearsOn hb with hcall | ⟨code, hstatus⟩ | ⟨e, he, hof⟩
    · rcases step_of_call hcall (reading side (recordsAbout side name rs)) with h1 | h1
      · rw [h1, current?_onCall hs.distinct]
      · rw [h1]
    · rw [step_of_status hstatus]
      rfl
    · exact absurd hof (by simp [hr e he])

/-! ## Which names came in -/

theorem uniform_of_not_managed (hn : isProxyManaged name = false) (side : Side) (rs : List Record) :
    Uniform (headerEvents side name rs) :=
  uniform_headerEvents (fun hm => absurd (hn.symm.trans hm) (by simp)) side

/-- One more record sets a header of an ordinary name, or unsets one, or leaves the name alone. -/
theorem current?_reading_cases (hn : isProxyManaged name = false) (side : Side) (rs : List Record) (r : Record) :
    (∃ h, r.headerEvent? = some ⟨h, false⟩ ∧ h.direction.side? = some side ∧ h.name = name ∧
        setValues side name [r] = [h.value] ∧
        (reading side (rs ++ [r])).current? name =
          some (.afterSet (isArriving side rs) ((reading side rs).current? name) h)) ∨
      (∃ h, r.headerEvent? = some ⟨h, true⟩ ∧ h.direction.side? = some side ∧ h.name = name ∧
        setValues side name [r] = [] ∧
        (reading side (rs ++ [r])).current? name = HeaderChange.afterUnset ((reading side rs).current? name) h) ∨
      ((∀ e, r.headerEvent? = some e → e.isOf side name = false) ∧ setValues side name [r] = [] ∧
        (reading side (rs ++ [r])).current? name = (reading side rs).current? name) := by
  have hu := uniform_of_not_managed hn side
  rcases eventCases side name r with ⟨h, hr, hside, rfl⟩ | ⟨h, hr, hside, rfl⟩ | hr
  · have hset := (values_singleton_of_event hr hside).1
    exact Or.inl ⟨h, hr, hside, rfl, hset, current?_reading_header hr hside (hu _)⟩
  · have hset := (values_singleton_of_event hr hside).1
    have hcurrent := current?_reading_unset hr hside (HeaderLine.isManaged_of_name hn) (hu (rs ++ [r]))
    exact Or.inr (Or.inl ⟨h, hr, hside, rfl, hset, hcurrent⟩)
  · exact Or.inr (Or.inr ⟨hr, (values_singleton_of_not hr).1, current?_reading_other hr (hu _)⟩)

/-- An ordinary name came in just when a header of it was set while headers came in. -/
theorem any_cameIn_reading (hn : isProxyManaged name = false) (side : Side) (rs : List Record) :
    ((reading side rs).current? name).any (·.cameIn) =
      !(setValues side name (incomingRecords side rs)).isEmpty := by
  induction rs using List.reverseRecOn with
  | nil => rfl
  | append_singleton rs r ih =>
    rw [setValues_incomingRecords_snoc]
    rcases current?_reading_cases hn side rs r with
      ⟨h, -, -, -, hset, hcurrent⟩ | ⟨h, -, -, -, hset, hcurrent⟩ | ⟨-, hset, hcurrent⟩
    · rw [hcurrent, hset, Option.any_some, HeaderChange.cameIn_afterSet, ih]
      cases isArriving side rs <;> cases setValues side name (incomingRecords side rs) <;> rfl
    · rw [hcurrent, hset, ite_self, List.append_nil, HeaderChange.any_cameIn_afterUnset, ih]
    · rw [hcurrent, hset, ite_self, List.append_nil, ih]

/-- In a message that is not started over, all that is known while headers come in came in. -/
theorem cameIn_of_isArriving (hn : isProxyManaged name = false) (honce : ArrivesOnce side rs)
    (hphase : isArriving side rs = true) {c : HeaderChange} (hc : (reading side rs).current? name = some c) :
    c.cameIn = true := by
  induction rs using List.reverseRecOn generalizing c with
  | nil => cases hc
  | append_singleton rs r ih =>
    have hbefore := isArriving_of_snoc honce hphase
    rcases current?_reading_cases hn side rs r with
      ⟨h, -, -, -, -, hcurrent⟩ | ⟨h, -, -, -, -, hcurrent⟩ | ⟨-, -, hcurrent⟩
    · rw [hcurrent] at hc
      obtain rfl := Option.some.inj hc
      rw [HeaderChange.cameIn_afterSet, hbefore, Bool.true_or]
    · rw [HeaderChange.cameIn, HeaderChange.state_of_afterUnset (hcurrent.symm.trans hc)]
      rfl
    · exact ih honce.of_snoc hbefore (hcurrent.symm.trans hc)

/-- In a message that is not started over, the value that came in is the first of those that did. -/
theorem incomingValue?_reading (hn : isProxyManaged name = false) (honce : ArrivesOnce side rs) :
    ((reading side rs).current? name).bind (·.incomingValue?) =
      (setValues side name (incomingRecords side rs)).head? := by
  induction rs using List.reverseRecOn with
  | nil => rfl
  | append_singleton rs r ih =>
    rw [setValues_incomingRecords_snoc]
    rcases current?_reading_cases hn side rs r with
      ⟨h, -, -, -, hset, hcurrent⟩ | ⟨h, -, -, -, hset, hcurrent⟩ | ⟨-, hset, hcurrent⟩
    · have hfresh (hphase : isArriving side rs = true) (c : HeaderChange)
          (hc : (reading side rs).current? name = some c) : c.cameIn = true :=
        cameIn_of_isArriving hn honce.of_snoc hphase hc
      rw [hcurrent, hset, Option.bind_some, HeaderChange.incomingValue?_afterSet hfresh, ih honce.of_snoc,
        List.head?_append]
      cases isArriving side rs <;> rfl
    · rw [hcurrent, hset, ite_self, List.append_nil, HeaderChange.incomingValue?_afterUnset, ih honce.of_snoc]
    · rw [hcurrent, hset, ite_self, List.append_nil, ih honce.of_snoc]

end DiffState

/-! ## The incoming headers -/

theorem filter_name_incomingHeaders (changes : List HeaderChange) (name : String) :
    (incomingHeaders changes).filter (fun h => h.name == name) =
      incomingHeaders (changes.filter fun c => c.name == name) := by
  rw [incomingHeaders, incomingHeaders, List.filter_map, List.filter_filter, List.filter_filter]
  congr 1
  refine List.filter_congr fun c _ => ?_
  rw [Function.comp_apply, Bool.and_comm]

theorem mem_incomingHeaders_iff (hu : Uniform (headerEvents side name rs)) :
    name ∈ (incomingHeaders (headerChanges side rs)).map (·.name) ↔
      ((DiffState.reading side rs).current? name).any (·.cameIn) = true := by
  have hpart := filter_headerChanges hu
  rw [DiffState.current?_reading_recordsAbout] at hpart
  have hmem (c : HeaderChange) : c ∈ headerChanges side rs ∧ c.name = name ↔
      (DiffState.reading side rs).current? name = some c := by
    rw [← Option.mem_toList, ← hpart, List.mem_filter, beq_iff_eq]
  rw [Option.any_eq_true]
  constructor
  · intro hname
    obtain ⟨h, hh, rfl⟩ := List.mem_map.mp hname
    obtain ⟨c, hc, rfl⟩ := List.mem_map.mp hh
    obtain ⟨hc, hcame⟩ := List.mem_filter.mp hc
    exact ⟨c, (hmem c).mp ⟨hc, rfl⟩, hcame⟩
  · rintro ⟨c, hc, hcame⟩
    obtain ⟨hchange, hname⟩ := (hmem c).mpr hc
    exact List.mem_map.mpr ⟨_, List.mem_map_of_mem (List.mem_filter.mpr ⟨hchange, hcame⟩), hname⟩

/-- An ordinary name is among the incoming headers just when a header of it was set while headers came in. -/
theorem mem_incomingHeaders_iff_setValues (hn : isProxyManaged name = false) (side : Side) (rs : List Record) :
    name ∈ (incomingHeaders (headerChanges side rs)).map (·.name) ↔
      setValues side name (incomingRecords side rs) ≠ [] := by
  rw [mem_incomingHeaders_iff (DiffState.uniform_of_not_managed hn side rs), DiffState.any_cameIn_reading hn side rs]
  simp

theorem incomingHeaders_toList (c? : Option HeaderChange) :
    incomingHeaders c?.toList = (c?.bind fun c => c.incomingValue?.map fun v => ⟨c.name, v⟩).toList := by
  cases c? with
  | none => rfl
  | some c => cases hc : c.cameIn <;> simp [incomingHeaders, HeaderChange.incomingValue?, hc]

/-- The incoming headers of an ordinary name in a message that is not started over: one, with the value of the
first that came in, or none. -/
theorem filter_incomingHeaders (hn : isProxyManaged name = false) (honce : ArrivesOnce side rs) :
    (incomingHeaders (headerChanges side rs)).filter (fun h => h.name == name) =
      ((setValues side name (incomingRecords side rs)).head?.map fun v => ⟨name, v⟩).toList := by
  have hvalue := DiffState.incomingValue?_reading hn honce
  have hnamed : (DiffState.reading side rs).Named := DiffState.named_start.foldl side rs
  rw [filter_name_incomingHeaders, filter_headerChanges (DiffState.uniform_of_not_managed hn side rs),
    incomingHeaders_toList, DiffState.current?_reading_recordsAbout, ← hvalue, Option.map_bind]
  congr 1
  cases hc : (DiffState.reading side rs).current? name with
  | none => rfl
  | some c =>
    rw [Option.bind_some, Option.bind_some, Function.comp_apply, hnamed.name_of_current? hc]

end ProxyLog
