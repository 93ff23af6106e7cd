import ProxyLog.Proofs.Header.OneName

/-!
# The account of a name is its change

A log in which processing begins once, and which is not started over, is read for each name as the
account of the name tells: from the events of the name before processing and those after.

* `account_snoc_…`: the account with one more event.
* `current?_before`: up to the first call that opens the side, the current change is the account.
* `current?_processed`: and so it is after the call, until a status line.
* `Phases side rs before after`: the records before such a call and those after it.
* `current?_reading`: the current change of any name in a log of these phases.
-/

set_option autoImplicit false

namespace ProxyLog
namespace HeaderEvent

variable {name : String} {before after : List HeaderEvent} {e : HeaderEvent}

/-! ## One more event before processing -/

theorem origin?_snoc_header (he : e.isUnset = false) (before : List HeaderEvent) :
    origin? (before ++ [e]) = (origin? before).or (some e) := by
  simp [origin?, he, List.find?_append]

theorem origin?_snoc_managed (he : e.isUnset = true) (hm : e.line.isManaged = true)
    (before : List HeaderEvent) : origin? (before ++ [e]) = some e := by
  simp [origin?, he, hm]

theorem origin?_snoc_unset (he : e.isUnset = true) (hm : e.line.isManaged = false)
    (before : List HeaderEvent) : origin? (before ++ [e]) = origin? before := by
  simp [origin?, he, hm, List.find?_append]

theorem account_nil (name : String) (before : List HeaderEvent) :
    account name before [] = (origin? before).map fun origin => incomingAccount name origin before [] := by
  unfold account
  cases origin? before <;> rfl

theorem incomingAccount_snoc_before (name : String) (origin : HeaderEvent) (before : List HeaderEvent)
    (e : HeaderEvent) : incomingAccount name origin (before ++ [e]) [] =
      ⟨name, origin.line.value, e.line.value, if e.isUnset then .deleted else .received⟩ := by
  simp [incomingAccount]

theorem incomingAccount_snoc_after (name : String) (origin : HeaderEvent) (before after : List HeaderEvent)
    (e : HeaderEvent) : incomingAccount name origin before (after ++ [e]) =
      ⟨name, origin.line.value, e.line.value, if e.isUnset then .deleted else .modified⟩ := by
  simp [incomingAccount, ← List.append_assoc]

theorem cameIn_incomingAccount (name : String) (origin : HeaderEvent) (before after : List HeaderEvent) :
    (incomingAccount name origin before after).cameIn = true := by
  unfold incomingAccount HeaderChange.cameIn
  simp only
  split
  · rfl
  · split <;> rfl

/-! ## One more event after processing began -/

theorem addedAccount_snoc_unset (he : e.isUnset = true) (name : String) (after : List HeaderEvent) :
    addedAccount name (after ++ [e]) = none := by
  simp [addedAccount, he]

theorem addedAccount_snoc_header (he : e.isUnset = false) (name : String) (after : List HeaderEvent) :
    addedAccount name (after ++ [e]) =
      some ⟨name, ((addedAccount name after).map (·.incoming)).getD e.line.value, e.line.value, .added⟩ := by
  have hsuffix : ((after ++ [e]).reverse.takeWhile (!·.isUnset)).reverse =
      (after.reverse.takeWhile (!·.isUnset)).reverse ++ [e] := by
    simp [he]
  unfold addedAccount
  rw [hsuffix]
  cases (after.reverse.takeWhile (!·.isUnset)).reverse with
  | nil => rfl
  | cons first rest => simp

theorem cameIn_addedAccount {c : HeaderChange} (h : addedAccount name after = some c) : c.cameIn = false := by
  unfold addedAccount at h
  split at h
  · cases h
  · obtain rfl := Option.some.inj h
    rfl

end HeaderEvent

/-! ## Phases of a log -/

/-- The record is a call that opens a side to processing. -/
def Record.opens (r : Record) (side : Side) : Bool := r.payload == .vclCall && opensSide r.value side

/-- A log before any call that opens the side, or with the records before the first such call and
those after it, among which no status line starts the message over. -/
inductive Phases (side : Side) : List Record → List Record → List Record → Prop
  | arriving {before : List Record} (hbefore : ∀ r ∈ before, r.opens side = false) :
      Phases side before before []
  | processed {before after : List Record} {call : Record} (hbefore : ∀ r ∈ before, r.opens side = false)
      (hcall : call.opens side = true) (hafter : ∀ r ∈ after, r.family ≠ .status) :
      Phases side (before ++ call :: after) before after

theorem Record.vclCall_of_opens {r : Record} {side : Side} (h : r.opens side = true) :
    r.payload = .vclCall ∧ opensSide r.value side = true := by
  simpa [opens] using h

/-- The records about a name have the phases of the log. -/
theorem Phases.recordsAbout {side : Side} {rs before after : List Record} (h : Phases side rs before after)
    (name : String) : Phases side (recordsAbout side name rs) (ProxyLog.recordsAbout side name before)
      (ProxyLog.recordsAbout side name after) := by
  cases h with
  | arriving hbefore => exact .arriving fun r hr => hbefore r (List.mem_filter.mp hr).1
  | processed hbefore hcall hafter =>
    rename_i call
    have hbears : bearsOn side (fun other => other == name) call = true := by
      simp [bearsOn, (Record.vclCall_of_opens hcall).1]
    have hsplit : ProxyLog.recordsAbout side name (before ++ call :: after) =
        ProxyLog.recordsAbout side name before ++ call :: ProxyLog.recordsAbout side name after := by
      unfold ProxyLog.recordsAbout
      rw [List.filter_append, List.filter_cons_of_pos hbears]
    rw [hsplit]
    exact .processed (fun r hr => hbefore r (List.mem_filter.mp hr).1) hcall
      fun r hr => hafter r (List.mem_filter.mp hr).1

namespace DiffState
variable {side : Side} {name : String} {rs before after : List Record}

/-! ## Before processing -/

theorem step_of_not_opens {r : Record} (hr : r.payload = .vclCall) (h : r.opens side = false)
    (s : DiffState) : s.step side r = s := by
  have hopens : opensSide r.value side = false := by simpa [Record.opens, hr] using h
  simp [step, hr, hopens]

theorem step_of_opens {r : Record} (h : r.opens side = true) (s : DiffState) : s.step side r = s.onCall := by
  obtain ⟨hr, hopens⟩ := Record.vclCall_of_opens h
  simp [step, hr, hopens]

/-- Headers are coming in, and the current change of a name is the account of its events. Only
events that the proxy does not manage make the name known. -/
structure Arriving (name : String) (es : List HeaderEvent) (s : DiffState) : Prop where
  processing : s.processing = false
  fresh : (∀ e ∈ es, e.line.isManaged = true) → s.known.get? name = none
  current : s.current? name = HeaderEvent.account name es []

theorem arriving_start (name : String) : start.Arriving name [] := ⟨rfl, fun _ => rfl, rfl⟩

variable {s : DiffState} {es : List HeaderEvent} {e : HeaderEvent}

/-- While headers come in, just the events of managed headers are held back. -/
theorem Arriving.holdsBack (h : s.Arriving e.line.name es) (hu : Uniform (es ++ [e])) :
    s.holdsBack e.line = e.line.isManaged := by
  cases hm : e.line.isManaged with
  | false => rw [DiffState.holdsBack, hm, Bool.and_false]
  | true =>
    have hfresh := h.fresh fun f hf => (hu f (by simp [hf]) e (by simp)).trans hm
    simp [DiffState.holdsBack, h.processing, OrderedMap.contains, hfresh, hm]

theorem Arriving.onHeader (h : s.Arriving e.line.name es) (hs : s.Tracks e.line.name) (ha : s.Admits e.line)
    (hu : Uniform (es ++ [e])) (he : e.isUnset = false) :
    (s.onHeader e.line).Arriving e.line.name (es ++ [e]) := by
  have hback := h.holdsBack hu
  refine ⟨?_, ?_, ?_⟩
  · rw [processing_onHeader]
    exact h.processing
  · intro hall
    rw [hall e (by simp)] at hback
    rw [DiffState.onHeader, if_pos hback]
    exact h.fresh fun f hf => hall f (by simp [hf])
  · rw [current?_onHeader hs ha, h.current, HeaderEvent.account_nil, HeaderEvent.account_nil,
      HeaderEvent.origin?_snoc_header he, h.processing]
    cases HeaderEvent.origin? es with
    | none =>
      rw [Option.none_or, Option.map_some, HeaderEvent.incomingAccount_snoc_before, he]
      rfl
    | some origin =>
      rw [Option.some_or, Option.map_some, Option.map_some, Option.map_some,
        HeaderEvent.incomingAccount_snoc_before, he]
      rfl

theorem Arriving.onUnset (h : s.Arriving e.line.name es) (hs : s.Tracks e.line.name) (ha : s.Admits e.line)
    (hu : Uniform (es ++ [e])) (he : e.isUnset = true) :
    (s.onUnset e.line).Arriving e.line.name (es ++ [e]) := by
  have hback := h.holdsBack hu
  refine ⟨?_, ?_, ?_⟩
  · rw [processing_onUnset]
    exact h.processing
  · intro hall
    rw [hall e (by simp)] at hback
    rw [DiffState.onUnset, if_pos hback]
    exact h.fresh fun f hf => hall f (by simp [hf])
  · rw [current?_onUnset hs ha, hback, h.current]
    cases hm : e.line.isManaged with
    | true =>
      rw [if_pos rfl, HeaderEvent.account_nil, HeaderEvent.origin?_snoc_managed he hm, Option.map_some,
        HeaderEvent.incomingAccount_snoc_before, he]
      rfl
    | false =>
      rw [if_neg (by simp), HeaderEvent.account_nil, HeaderEvent.account_nil,
        HeaderEvent.origin?_snoc_unset he hm]
      cases HeaderEvent.origin? es with
      | none => rfl
      | some origin =>
        rw [Option.map_some, Option.bind_some, if_pos (HeaderEvent.cameIn_incomingAccount _ _ _ _),
          Option.map_some, HeaderEvent.incomingAccount_snoc_before, he]
        rfl

theorem arriving_reading (hall : AllAbout side name rs) (hu : Uniform (headerEvents side name rs))
    (hclosed : ∀ r ∈ rs, r.opens side = false) :
    (reading side rs).Arriving name (headerEvents side name rs) := by
  induction rs using List.reverseRecOn with
  | nil => exact arriving_start name
  | append_singleton rs r ih =>
    have h := ih hall.of_append hu.of_headerEvents_append fun q hq => hclosed q (by simp [hq])
    rw [reading_snoc]
    rcases cases_of_bearsOn (hall r (by simp)) with hr | ⟨code, hr⟩ | ⟨e, hr, he⟩
    · rw [headerEvents_snoc_of_none (by simp [Record.headerEvent?, hr]),
        step_of_not_opens hr (hclosed r (by simp))]
      exact h
    · rw [headerEvents_snoc_of_none (by simp [Record.headerEvent?, hr]), step_of_status hr]
      exact ⟨rfl, h.fresh, h.current⟩
    · obtain ⟨-, rfl⟩ := HeaderEvent.isOf_iff.mp he
      have hs := (tracks_reading hall.of_append hu.of_headerEvents_append).1
      have ha := admits_reading hall hr he hu
      rw [headerEvents_snoc_of_isOf hr he] at hu ⊢
      rw [step_of_event hr he, onEvent]
      cases hunset : e.isUnset with
      | true => exact h.onUnset hs ha hu hunset
      | false => exact h.onHeader hs ha hu hunset

/-! ## After processing began -/

/-- Processing goes on, and the current change of a name is the account of its events. -/
structure Processed (name : String) (before after : List HeaderEvent) (s : DiffState) : Prop where
  processing : s.processing = true
  current : s.current? name = HeaderEvent.account name before after

theorem processing_onCall (s : DiffState) : s.onCall.processing = true := by
  unfold onCall
  split
  · next h => exact h
  · rfl

theorem Arriving.onCall (h : s.Arriving name es) (hs : s.Tracks name) : s.onCall.Processed name es [] :=
  ⟨processing_onCall s, (current?_onCall hs.distinct _).trans h.current⟩

variable {fs : List HeaderEvent}

theorem Processed.onHeader (h : s.Processed e.line.name es fs) (hs : s.Tracks e.line.name)
    (he : e.isUnset = false) : (s.onHeader e.line).Processed e.line.name es (fs ++ [e]) := by
  have hheld := hs.idle h.processing
  have ha : s.Admits e.line := fun c hc => absurd (hheld.symm.trans hc) (by simp)
  refine ⟨?_, ?_⟩
  · rw [processing_onHeader]
    exact h.processing
  · rw [current?_onHeader hs ha, h.current, h.processing, HeaderEvent.account, HeaderEvent.account]
    cases HeaderEvent.origin? es with
    | some origin =>
      simp only [HeaderEvent.incomingAccount_snoc_after, he]
      rw [Option.any_some, HeaderEvent.cameIn_incomingAccount]
      rfl
    | none =>
      simp only [HeaderEvent.addedAccount_snoc_header he]
      cases hc : HeaderEvent.addedAccount e.line.name fs with
      | none => rfl
      | some c =>
        rw [Option.any_some, HeaderEvent.cameIn_addedAccount hc]
        rfl

theorem Processed.onUnset (h : s.Processed e.line.name es fs) (hs : s.Tracks e.line.name)
    (he : e.isUnset = true) : (s.onUnset e.line).Processed e.line.name es (fs ++ [e]) := by
  have hheld := hs.idle h.processing
  have ha : s.Admits e.line := fun c hc => absurd (hheld.symm.trans hc) (by simp)
  have hback : s.holdsBack e.line = false := by simp [DiffState.holdsBack, h.processing]
  refine ⟨?_, ?_⟩
  · rw [processing_onUnset]
    exact h.processing
  · rw [current?_onUnset hs ha, hback, if_neg (by simp), h.current, HeaderEvent.account, HeaderEvent.account]
    cases HeaderEvent.origin? es with
    | some origin =>
      simp only [HeaderEvent.incomingAccount_snoc_after, he]
      rw [Option.bind_some, if_pos (HeaderEvent.cameIn_incomingAccount _ _ _ _)]
      rfl
    | none =>
      simp only [HeaderEvent.addedAccount_snoc_unset he]
      cases hc : HeaderEvent.addedAccount e.line.name fs with
      | none => rfl
      | some c =>
        rw [Option.bind_some, HeaderEvent.cameIn_addedAccount hc]
        rfl

theorem processed_reading {call : Record} (hcall : call.opens side = true)
    (hall : AllAbout side name (before ++ [call] ++ after))
    (hu : Uniform (headerEvents side name (before ++ [call] ++ after)))
    (hbefore : ∀ r ∈ before, r.opens side = false) (hafter : ∀ r ∈ after, r.family ≠ .status) :
    (reading side (before ++ [call] ++ after)).Processed name (headerEvents side name before)
      (headerEvents side name after) := by
  induction after using List.reverseRecOn with
  | nil =>
    rw [List.append_nil] at hall hu ⊢
    have harriving := arriving_reading hall.of_append hu.of_headerEvents_append hbefore
    have hs := (tracks_reading hall.of_append hu.of_headerEvents_append).1
    rw [reading_snoc, step_of_opens hcall]
    exact harriving.onCall hs
  | append_singleton after r ih =>
    rw [← List.append_assoc] at hall hu ⊢
    have h := ih hall.of_append hu.of_headerEvents_append fun q hq => hafter q (by simp [hq])
    have hs := (tracks_reading hall.of_append hu.of_headerEvents_append).1
    rw [reading_snoc]
    rcases cases_of_bearsOn (hall r (by simp)) with hr | ⟨code, hr⟩ | ⟨e, hr, he⟩
    -- A further call finds nothing held back, whether it opens the side or not.
    · rw [headerEvents_snoc_of_none (by simp [Record.headerEvent?, hr])]
      rcases step_of_call hr (reading side (before ++ [call] ++ after)) with h1 | h1
      · rw [h1]
        exact ⟨processing_onCall _, (current?_onCall hs.distinct _).trans h.current⟩
      · rw [h1]
        exact h
    · exact absurd (by simp [Record.family, hr, Payload.family]) (hafter r (by simp))
    · obtain ⟨-, rfl⟩ := HeaderEvent.isOf_iff.mp he
      rw [headerEvents_snoc_of_isOf hr he, step_of_event hr he, onEvent]
      cases hunset : e.isUnset with
      | true => exact h.onUnset hs hunset
      | false => exact h.onHeader hs hunset

/-! ## The whole log -/

/-- The part of a reading that is about a name is the reading of the records about the name. -/
theorem reading_recordsAbout (side : Side) (name : String) (rs : List Record) :
    reading side (recordsAbout side name rs) = (reading side rs).restrict fun other => other == name := by
  have hrun := restrict_foldl (p := fun other => other == name) named_start side rs
  exact hrun.symm

theorem current?_restrict (s : DiffState) (name : String) :
    (s.restrict fun other => other == name).current? name = s.current? name := by
  simp [current?, restrict, OrderedMap.get?_restrict]

/-- The current change of a name is the account of its events before and after. -/
theorem current?_reading (h : Phases side rs before after) (hu : Uniform (headerEvents side name rs)) :
    (reading side rs).current? name =
      HeaderEvent.account name (headerEvents side name before) (headerEvents side name after) := by
  have hpart := h.recordsAbout name
  have hall := allAbout_recordsAbout side name rs
  rw [← headerEvents_recordsAbout] at hu
  rw [← current?_restrict, ← reading_recordsAbout, ← headerEvents_recordsAbout side name before,
    ← headerEvents_recordsAbout side name after]
  generalize recordsAbout side name rs = qs at hpart hall hu ⊢
  generalize recordsAbout side name before = front at hpart ⊢
  generalize recordsAbout side name after = back at hpart ⊢
  cases hpart with
  | arriving hbefore => exact (arriving_reading hall hu hbefore).current
  | processed hbefore hcall hafter =>
    rename_i call
    have hassoc : ∀ ps qs : List Record, ps ++ call :: qs = ps ++ [call] ++ qs := fun ps qs => by simp
    rw [hassoc] at hall hu ⊢
    exact (processed_reading hcall hall hu hbefore hafter).current

end DiffState
end ProxyLog
