import ProxyLog.Proofs.Header.Arriving
import ProxyLog.Proofs.Transaction.Buffer

/-!
# One record and one name

What a record does to the headers of one name is told by the record and by whether headers come in.
The client phase of a builder is the time in which headers of the request come in.

* `clientPhase_of_run`: the client phase of a builder, told from its records.
* `headers_accept_header`, `headers_accept_unset`: a header that is set or unset.
* `get?_accept_other`: no other record touches a name that the proxy does not manage.
-/

set_option autoImplicit false

namespace ProxyLog.Builder
variable {name : String} {b : Builder} {r : Record} {h : HeaderLine} {side : Side}

theorem accept_header (hr : r.headerEvent? = some ⟨h, false⟩) (b : Builder) :
    b.accept r = (b.push r).onHeader h := by
  simp only [accept, Record.headerEvent?_set_iff.mp hr]

theorem accept_unset (hr : r.headerEvent? = some ⟨h, true⟩) (b : Builder) :
    b.accept r = (b.push r).onUnset h := by
  simp only [accept, Record.headerEvent?_unset_iff.mp hr]

/-! ## The client phase -/

theorem clientPhase_accept (b : Builder) (r : Record) :
    (b.accept r).clientPhase = arrivingAfter .request b.clientPhase r := by
  have hpush : (b.push r).clientPhase = b.clientPhase := rfl
  unfold accept arrivingAfter
  cases hr : r.payload with
  | vclCall =>
    have hcall : (b.push r).onCall.clientPhase = false := by
      unfold onCall
      split
      · split <;> rfl
      · next h => simpa using h
    simp only [hcall]
    exact (Bool.and_false _).symm
  | status code => rfl
  | link child => exact (clientPhase_onLink _ child).trans hpush
  | header h => exact (clientPhase_onHeader _ h).trans hpush
  | unset h => exact (clientPhase_onUnset _ h).trans hpush
  | closing => simp only [onClosing_eq]; rfl
  | _ => exact hpush

theorem clientPhase_of_run {t : Transaction} {rs : List Record} (hrun : Run t rs b) :
    b.clientPhase = isArriving .request rs := by
  induction hrun with
  | opened hr hp =>
    simp [isArriving, arrivingAfter, hp]
    rfl
  | accept hb hr hp ih => rw [clientPhase_accept, isArriving_snoc, ih]

/-! ## Headers of a side -/

theorem headers_accept_header (hr : r.headerEvent? = some ⟨h, false⟩) (hside : h.direction.side? = some side)
    (hc : (b.clientPhase && h.isManaged) = false) :
    (b.accept r).headers side =
      if b.clientPhase then (b.headers side).add h.name h.value .received
      else (b.headers side).addProcessed h.name h.value := by
  rw [accept_header hr]
  have hphase : (b.push r).clientPhase = b.clientPhase := rfl
  have hpush := headers_push b r side
  unfold onHeader
  simp only [hside, hphase]
  cases hclient : b.clientPhase with
  | true =>
    have hm : h.isManaged = false := by simpa [hclient] using hc
    simp only [hm, Bool.not_true, Bool.false_eq_true, if_false, if_true, headers_mapHeaders_self]
    rw [← hpush]
    rfl
  | false =>
    simp only [Bool.not_false, Bool.false_eq_true, if_false, if_true, headers_mapHeaders_self]
    rw [← hpush]
    rfl

theorem headers_accept_unset (hr : r.headerEvent? = some ⟨h, true⟩) (hside : h.direction.side? = some side)
    (b : Builder) : (b.accept r).headers side = (b.headers side).delete h.name true := by
  rw [accept_unset hr, onUnset_eq hside]
  change ((b.push r).mapHeaders side (·.delete h.name true)).headers side = _
  rw [headers_mapHeaders_self, headers_push]

theorem headers_onHeader_of_side (hside : h.direction.side? ≠ some side) (b : Builder) :
    (b.onHeader h).headers side = b.headers side := by
  cases hs : h.direction.side? with
  | none => rw [onHeader_of_object hs]
  | some other =>
    have hne : side ≠ other := fun heq => hside (heq ▸ hs)
    cases hc : b.clientPhase && h.isManaged with
    | true =>
      rw [onHeader_of_buffered hs hc]
      rfl
    | false =>
      obtain ⟨state, -, heq⟩ := onHeader_of_not_buffered hs hc
      rw [heq, headers_mapHeaders_of_ne hne]
      rfl

theorem headers_onUnset_of_side (hside : h.direction.side? ≠ some side) (b : Builder) :
    (b.onUnset h).headers side = b.headers side := by
  cases hs : h.direction.side? with
  | none => rw [onUnset_of_object hs]
  | some other =>
    have hne : side ≠ other := fun heq => hside (heq ▸ hs)
    rw [onUnset_eq hs]
    exact headers_mapHeaders_of_ne hne b _

/-! ## Records that are about other names -/

theorem get?_mergeBuffer_of_none (hb : b.Sound) (hnone : b.buffer.get? name = none) (side other : Side) :
    ((b.mergeBuffer side).headers other).get? name = (b.headers other).get? name := by
  have hmerge (hs : HeaderSet) := HeaderSet.get?_merge_of_none hb.buffered.wellFormed hnone hs
  exact get?_mapHeaders_of_eq hmerge b side other

theorem get?_onCall_of_none (hb : b.Sound) (hnone : b.buffer.get? name = none) (side : Side) :
    (b.onCall.headers side).get? name = (b.headers side).get? name := by
  cases hlast : b.lastSide with
  | none => rw [hb.onCall_of_none hlast]; rfl
  | some last =>
    rw [hb.onCall_of_lastSide hlast]
    exact get?_mergeBuffer_of_none hb hnone last side

theorem Sound.get?_buffer (hb : b.Sound) (hm : isProxyManaged name = false) : b.buffer.get? name = none := by
  cases hg : b.buffer.get? name with
  | none => rfl
  | some g => exact absurd (hb.buffered.managed name g hg) (by simp [hm])

/-- An event of no header of a name has another name, or is on another side. -/
theorem name_ne_or_side_ne {unset : Bool} (hn : canonicalName name = name) (hr : r.FromLine)
    (he : r.headerEvent? = some ⟨h, unset⟩) (hno : HeaderEvent.isOf ⟨h, unset⟩ side name = false) :
    canonicalName name ≠ canonicalName h.name ∨ h.direction.side? ≠ some side := by
  by_cases hname : h.name = name
  · refine Or.inr fun hside => ?_
    have hof : HeaderEvent.isOf ⟨h, unset⟩ side name = true := HeaderEvent.isOf_iff.mpr ⟨hside, hname⟩
    exact absurd (hof.symm.trans hno) (by simp)
  · have hcanonical : canonicalName h.name = h.name := canonicalName_of_fromLine hr (e := ⟨h, unset⟩) he
    exact Or.inl (canonicalName_ne hn hcanonical hname)

/-- A record that is no event of an ordinary name leaves its headers alone. -/
theorem get?_accept_other (hb : b.Sound) (hn : canonicalName name = name) (hm : isProxyManaged name = false)
    (hr : r.FromLine) (hno : ∀ e, r.headerEvent? = some e → e.isOf side name = false) :
    ((b.accept r).headers side).get? name = (b.headers side).get? name := by
  have hbpush := hb.push r
  have hnone := hbpush.get?_buffer hm
  refine Eq.trans ?_ (congrArg (·.get? name) (headers_push b r side))
  cases hpayload : r.payload with
  | vclCall =>
    simp only [accept, hpayload]
    exact get?_onCall_of_none hbpush hnone side
  | closing =>
    simp only [accept, hpayload, onClosing_eq]
    exact get?_mergeBuffer_of_none hbpush hnone .request side
  | link child =>
    simp only [accept, hpayload, headers_onLink]
  | header h =>
    have he := Record.headerEvent?_set_iff.mpr hpayload
    rw [accept_header he]
    rcases name_ne_or_side_ne hn hr he (hno _ he) with hne | hside
    · exact (get?_onHeader_of_ne hne _).1 side
    · rw [headers_onHeader_of_side hside]
  | unset h =>
    have he := Record.headerEvent?_unset_iff.mpr hpayload
    rw [accept_unset he]
    rcases name_ne_or_side_ne hn hr he (hno _ he) with hne | hside
    · exact (get?_onUnset_of_ne hne _).1 side
    · rw [headers_onUnset_of_side hside]
  | status code => simp only [accept, hpayload]; rfl
  | _ => simp only [accept, hpayload]

end ProxyLog.Builder
