import ProxyLog.Proofs.Header.FinalView
import ProxyLog.Proofs.Transaction.Buffer

/-!
# Two views of the final headers

A transaction tells the final headers twice: as changes, computed from its records, and as header
sets, filled while the records came in. The two agree. Headers that the proxy manages are buffered
on the way to the sets, and for these the agreement needs an orderly log.

* `Builder.Orderly b r`: nothing about a response comes while headers of a request are buffered.
* `Builder.Agrees name rs b`: the set or the buffer ends with what the last event of a name leaves.
* `finalHeaders_changes_eq_live`: the final header of a name is its last live value.
-/

set_option autoImplicit false

namespace ProxyLog

/-- The side of the header that a record sets or unsets. -/
def Record.headerSide? (r : Record) : Option Side := r.headerEvent?.bind (·.line.direction.side?)

namespace Builder

/-! ## Orderly runs -/

/-- While something is buffered, no header of a response is set or unset, and a call finds that the
last header was one of a request. -/
def Orderly (b : Builder) (r : Record) : Prop :=
  b.buffer.size ≠ 0 → r.headerSide? ≠ some .response ∧ (r.payload = .vclCall → b.lastSide = some .request)

instance (b : Builder) (r : Record) : Decidable (b.Orderly r) := by
  unfold Orderly
  infer_instance

/-- A builder meets each of some records in order. -/
def MeetsOrderly : Builder → List Record → Prop
  | _, [] => True
  | b, r :: rs => b.Orderly r ∧ MeetsOrderly (b.take r) rs

instance decidableMeetsOrderly : (b : Builder) → (rs : List Record) → Decidable (b.MeetsOrderly rs)
  | _, [] => isTrue trivial
  | b, r :: rs =>
    have := decidableMeetsOrderly (b.take r) rs
    inferInstanceAs (Decidable (b.Orderly r ∧ MeetsOrderly (b.take r) rs))

theorem meetsOrderly_snoc {b : Builder} {rs : List Record} {r : Record} :
    b.MeetsOrderly (rs ++ [r]) ↔ b.MeetsOrderly rs ∧ (rs.foldl take b).Orderly r := by
  induction rs generalizing b with
  | nil => simp [MeetsOrderly]
  | cons q rs ih => simp [MeetsOrderly, ih, and_assoc]

/-! ## The sets and the events -/

/-- The headers of a name end with what its last event leaves. While the name is buffered, this is
true of the buffer and not of the request. -/
structure Agrees (name : String) (rs : List Record) (b : Builder) : Prop where
  response : (b.headers .response).lastLive? name = lastValue? (headerEvents .response name rs)
  request : b.buffer.get? name = none →
    (b.headers .request).lastLive? name = lastValue? (headerEvents .request name rs)
  buffered : ∀ g, b.buffer.get? name = some g →
    g.values.getLast?.bind HeaderSet.liveText? = lastValue? (headerEvents .request name rs)
  origin : ∀ g, b.buffer.get? name = some g → ∃ e ∈ headerEvents .request name rs, e.line.isManaged = true

variable {name : String} {rs : List Record} {b b' : Builder}

/-- What changes neither the headers of the name nor its events keeps the agreement. -/
theorem Agrees.of_get?_eq {rs' : List Record} (h : Agrees name rs b)
    (hheaders : ∀ side, (b'.headers side).get? name = (b.headers side).get? name)
    (hbuffer : b'.buffer.get? name = b.buffer.get? name)
    (hevents : ∀ side, headerEvents side name rs' = headerEvents side name rs) : Agrees name rs' b' where
  response := by
    rw [HeaderSet.lastLive?_congr (hheaders .response), hevents]
    exact h.response
  request := by
    intro hnone
    rw [HeaderSet.lastLive?_congr (hheaders .request), hevents]
    exact h.request (hbuffer ▸ hnone)
  buffered := by
    intro g hg
    rw [hevents]
    exact h.buffered g (hbuffer ▸ hg)
  origin := by
    intro g hg
    rw [hevents]
    exact h.origin g (hbuffer ▸ hg)

/-! ## Merges -/

/-- A merge into the request moves what the buffer ended with to the headers. -/
theorem Agrees.mergeRequest (h : Agrees name rs b) (hb : b.Sound) : Agrees name rs (b.mergeBuffer .request) := by
  have hrequest : (b.mergeBuffer .request).headers .request = (b.headers .request).merge b.buffer :=
    headers_mapHeaders_self b .request _
  refine ⟨h.response, ?_, fun g hg => (nomatch hg), fun g hg => (nomatch hg)⟩
  intro _
  rw [hrequest]
  cases hg : b.buffer.get? name with
  | none =>
    rw [HeaderSet.lastLive?_congr (HeaderSet.get?_merge_of_none hb.buffered.wellFormed hg _)]
    exact h.request hg
  | some g =>
    have hv := List.getLast?_eq_some_getLast (hb.buffered.nonempty name g hg)
    rw [HeaderSet.lastLive?_merge hb.buffered.wellFormed hg hv, ← h.buffered g hg, hv]
    rfl

/-- A call may merge the buffer into the headers of either side, unless the name is buffered. -/
theorem Agrees.onCall (h : Agrees name rs b) (hb : b.Sound)
    (hcall : b.buffer.get? name ≠ none → b.lastSide = some .request) : Agrees name rs b.onCall := by
  cases hside : b.lastSide with
  | none =>
    have hnone : b.buffer.get? name = none := by
      by_contra hsome
      exact absurd (hside.symm.trans (hcall hsome)) (by simp)
    rw [hb.onCall_of_none hside]
    exact h.of_get?_eq (fun _ => rfl) hnone.symm fun _ => rfl
  | some side =>
    rw [hb.onCall_of_lastSide hside]
    cases hg : b.buffer.get? name with
    | none =>
      have hmerge := fun hs => HeaderSet.get?_merge_of_none hb.buffered.wellFormed hg hs
      exact h.of_get?_eq (get?_mapHeaders_of_eq hmerge b side) hg.symm fun _ => rfl
    | some g =>
      have hrequest := hcall (by simp [hg])
      obtain rfl := Option.some.inj (hside.symm.trans hrequest)
      exact (h.mergeRequest hb).of_get?_eq (fun _ => rfl) rfl fun _ => rfl

/-! ## Events -/

variable {r : Record} {h : HeaderLine} {side : Side}

theorem headerEvents_otherSide {unset : Bool} (hr : r.headerEvent? = some ⟨h, unset⟩)
    (hside : h.direction.side? = some side) {other : Side} (hother : other ≠ side) (name : String)
    (rs : List Record) : headerEvents other name (rs ++ [r]) = headerEvents other name rs := by
  refine headerEvents_snoc_of_not_isOf hr ?_ rs
  have hne : side ≠ other := fun heq => hother heq.symm
  simp [HeaderEvent.isOf, hside, hne]

theorem headerEvents_sameSide {unset : Bool} (hr : r.headerEvent? = some ⟨h, unset⟩)
    (hside : h.direction.side? = some side) (rs : List Record) :
    headerEvents side h.name (rs ++ [r]) = headerEvents side h.name rs ++ [⟨h, unset⟩] :=
  headerEvents_snoc_of_isOf hr (HeaderEvent.isOf_iff.mpr ⟨hside, rfl⟩) rs

/-- A request header that is not buffered meets nothing of its name in the buffer: that would be in
the other direction. -/
theorem Agrees.get?_buffer (ha : Agrees h.name rs b) (hr : r.headerEvent? = some ⟨h, false⟩)
    (hside : h.direction.side? = some .request)
    (hone : isProxyManaged h.name = true → OneDirection h.name (rs ++ [r])) (hb : b.Sound)
    (hc : (b.clientPhase && h.isManaged) = false) : b.buffer.get? h.name = none := by
  cases hg : b.buffer.get? h.name with
  | none => rfl
  | some g =>
    -- Some managed event put the name into the buffer. The new event has its direction, so it is
    -- managed too, and would be buffered unless the buffer is empty.
    have hmanaged := hb.buffered.managed h.name g hg
    obtain ⟨e, he, hem⟩ := ha.origin g hg
    have hdirection : e.line.direction = h.direction := by
      refine hone hmanaged e ?_ ⟨h, false⟩ ?_
      · rw [headerEvents_append]
        exact List.mem_append_left _ he
      · rw [headerEvents_sameSide hr hside]
        simp
    have hm : h.isManaged = true := by
      rw [HeaderLine.isManaged_iff, ← hdirection]
      exact ⟨(HeaderLine.isManaged_iff.mp hem).1, hmanaged⟩
    have hphase : b.clientPhase = false := by simpa [hm] using hc
    rw [hb.idle hphase] at hg
    cases hg

/-- A header that is buffered leaves its value in the buffer. -/
theorem Agrees.onHeader_buffered (ha : Agrees h.name rs b) (hr : r.headerEvent? = some ⟨h, false⟩)
    (hside : h.direction.side? = some .request) (hc : (b.clientPhase && h.isManaged) = true) :
    Agrees h.name (rs ++ [r]) (b.onHeader h) := by
  have hevents := headerEvents_sameSide hr hside rs
  obtain ⟨-, hm⟩ := Bool.and_eq_true_iff.mp hc
  rw [onHeader_of_buffered hside hc]
  refine ⟨?_, ?_, ?_, ?_⟩
  · rw [headerEvents_otherSide hr hside (by simp)]
    exact ha.response
  · intro hnone
    have hsome := HeaderSet.get?_add_self b.buffer h.name h.value
      (if b.buffer.first h.name false = "" then .added else .modified)
    exact absurd (hsome.symm.trans hnone) (by simp)
  · intro g hg
    have hlive : HeaderSet.liveText? ⟨h.value, if b.buffer.first h.name false = "" then .added else .modified⟩ =
        some h.value := by
      unfold HeaderSet.liveText? HeaderValue.isLive
      split <;> simp
    rw [hevents, lastValue?_snoc, HeaderSet.getLast?_values_add hg, Option.bind_some, hlive]
    rfl
  · intro g _
    refine ⟨⟨h, false⟩, ?_, hm⟩
    rw [hevents]
    simp

/-- A header that is not buffered leaves its value in the headers of its side. -/
theorem Agrees.onHeader_direct (ha : Agrees h.name rs b) (hr : r.headerEvent? = some ⟨h, false⟩)
    (hside : h.direction.side? = some side) (hc : (b.clientPhase && h.isManaged) = false)
    (hnone : side = .request → b.buffer.get? h.name = none) :
    Agrees h.name (rs ++ [r]) (b.onHeader h) := by
  obtain ⟨state, hstate, heq⟩ := onHeader_of_not_buffered hside hc
  have hlast : lastValue? (headerEvents side h.name (rs ++ [r])) = some h.value := by
    rw [headerEvents_sameSide hr hside rs, lastValue?_snoc]
    rfl
  have hself : ((b.onHeader h).headers side).lastLive? h.name = some h.value := by
    rw [heq, headers_mapHeaders_self]
    exact HeaderSet.lastLive?_add_self _ _ _ hstate
  have hbuffer : (b.onHeader h).buffer = b.buffer := by
    rw [heq]
    rfl
  have hother : ∀ other, other ≠ side → (b.onHeader h).headers other = b.headers other := by
    intro other hne
    rw [heq, headers_mapHeaders_of_ne hne]
    rfl
  cases side with
  | request =>
    refine ⟨?_, fun _ => hself.trans hlast.symm, ?_, ?_⟩
    · rw [hother .response (by simp), headerEvents_otherSide hr hside (by simp)]
      exact ha.response
    · intro g hg
      rw [hbuffer, hnone rfl] at hg
      cases hg
    · intro g hg
      rw [hbuffer, hnone rfl] at hg
      cases hg
  | response =>
    refine ⟨hself.trans hlast.symm, ?_, ?_, ?_⟩
    · rw [hother .request (by simp), hbuffer, headerEvents_otherSide hr hside (by simp)]
      exact ha.request
    · rw [hbuffer, headerEvents_otherSide hr hside (by simp)]
      exact ha.buffered
    · rw [hbuffer, headerEvents_otherSide hr hside (by simp)]
      exact ha.origin

/-- Events of other names and those of stored objects are no events of a name. -/
theorem headerEvents_elsewhere {unset : Bool} (hr : r.headerEvent? = some ⟨h, unset⟩)
    (helse : h.name ≠ name ∨ h.direction.side? = none) (side : Side) (rs : List Record) :
    headerEvents side name (rs ++ [r]) = headerEvents side name rs := by
  refine headerEvents_snoc_of_not_isOf hr ?_ rs
  rcases helse with hne | hside
  · simp [HeaderEvent.isOf, hne]
  · simp [HeaderEvent.isOf, hside]

theorem Agrees.onHeader (ha : Agrees name rs b) (hr : r.headerEvent? = some ⟨h, false⟩)
    (hone : isProxyManaged name = true → OneDirection name (rs ++ [r])) (hb : b.Sound)
    (hn : canonicalName name = name) (hcanonical : canonicalName h.name = h.name) :
    Agrees name (rs ++ [r]) (b.onHeader h) := by
  by_cases hname : h.name = name
  · obtain rfl := hname
    cases hside : h.direction.side? with
    | none =>
      rw [onHeader_of_object hside]
      exact ha.of_get?_eq (fun _ => rfl) rfl fun side => headerEvents_elsewhere hr (Or.inr hside) side rs
    | some side =>
      cases hc : b.clientPhase && h.isManaged with
      | true =>
        obtain ⟨-, hm⟩ := Bool.and_eq_true_iff.mp hc
        obtain rfl : side = .request := by
          rw [(HeaderLine.isManaged_iff.mp hm).1] at hside
          exact (Option.some.inj hside).symm
        exact ha.onHeader_buffered hr hside hc
      | false =>
        refine ha.onHeader_direct hr hside hc ?_
        rintro rfl
        exact ha.get?_buffer hr hside hone hb hc
  · have hne := canonicalName_ne hn hcanonical hname
    obtain ⟨hheaders, hbuffer⟩ := get?_onHeader_of_ne hne b
    exact ha.of_get?_eq hheaders hbuffer fun side => headerEvents_elsewhere hr (Or.inl hname) side rs

theorem lastLive?_onUnset (hside : h.direction.side? = some side) (b : Builder) :
    ((b.onUnset h).headers side).lastLive? h.name = none := by
  rw [onUnset_eq hside]
  change ((b.mapHeaders side (·.delete h.name true)).headers side).lastLive? h.name = none
  rw [headers_mapHeaders_self, HeaderSet.lastLive?_delete_self]

theorem headers_onUnset_of_ne {other : Side} (hside : h.direction.side? = some side) (hother : other ≠ side)
    (b : Builder) : (b.onUnset h).headers other = b.headers other := by
  rw [onUnset_eq hside]
  exact headers_mapHeaders_of_ne hother b _

theorem lastValue?_unset (hr : r.headerEvent? = some ⟨h, true⟩) (hside : h.direction.side? = some side)
    (rs : List Record) : lastValue? (headerEvents side h.name (rs ++ [r])) = none := by
  rw [headerEvents_sameSide hr hside, lastValue?_snoc]
  rfl

/-- A request header that is unset leaves no value, neither in the headers nor in the buffer. -/
theorem Agrees.onUnset_request (ha : Agrees h.name rs b) (hr : r.headerEvent? = some ⟨h, true⟩)
    (hside : h.direction.side? = some .request) : Agrees h.name (rs ++ [r]) (b.onUnset h) := by
  refine ⟨?_, ?_, ?_, ?_⟩
  · rw [headers_onUnset_of_ne hside (by simp), headerEvents_otherSide hr hside (by simp)]
    exact ha.response
  · intro _
    rw [lastLive?_onUnset hside, lastValue?_unset hr hside]
  · intro g hg
    rw [onUnset_eq hside] at hg
    rw [lastValue?_unset hr hside]
    exact HeaderSet.liveText?_getLast?_delete hg
  · intro g hg
    rw [onUnset_eq hside] at hg
    rw [headerEvents_sameSide hr hside]
    cases hc : b.clientPhase && h.isManaged with
    | true =>
      obtain ⟨-, hm⟩ := Bool.and_eq_true_iff.mp hc
      exact ⟨⟨h, true⟩, by simp, hm⟩
    | false =>
      simp only [hc, Bool.false_eq_true, if_false, HeaderSet.get?_delete_self] at hg
      obtain ⟨g', hg', -⟩ := Option.map_eq_some_iff.mp hg
      obtain ⟨e, he, hm⟩ := ha.origin g' hg'
      exact ⟨e, List.mem_append_left _ he, hm⟩

/-- A response header that is unset leaves no value, and must find nothing of its name in the buffer. -/
theorem Agrees.onUnset_response (ha : Agrees h.name rs b) (hr : r.headerEvent? = some ⟨h, true⟩)
    (hside : h.direction.side? = some .response) (hnone : b.buffer.get? h.name = none) :
    Agrees h.name (rs ++ [r]) (b.onUnset h) := by
  have hm : h.isManaged = false := by
    have hdirection : h.direction ≠ .request := fun hd => by rw [hd] at hside; cases hside
    rw [HeaderLine.isManaged, beq_eq_false_iff_ne.mpr hdirection, Bool.false_and]
  have hbuffer : (b.onUnset h).buffer.get? h.name = none := by
    rw [onUnset_eq hside]
    simp [hm, HeaderSet.get?_delete_self, hnone]
  refine ⟨?_, ?_, ?_, ?_⟩
  · rw [lastLive?_onUnset hside, lastValue?_unset hr hside]
  · intro _
    rw [headers_onUnset_of_ne hside (by simp), headerEvents_otherSide hr hside (by simp)]
    exact ha.request hnone
  · intro g hg
    rw [hbuffer] at hg
    cases hg
  · intro g hg
    rw [hbuffer] at hg
    cases hg

theorem Agrees.onUnset (ha : Agrees name rs b) (hr : r.headerEvent? = some ⟨h, true⟩)
    (horderly : b.buffer.get? name ≠ none → h.direction.side? ≠ some .response)
    (hn : canonicalName name = name) (hcanonical : canonicalName h.name = h.name) :
    Agrees name (rs ++ [r]) (b.onUnset h) := by
  by_cases hname : h.name = name
  · obtain rfl := hname
    cases hside : h.direction.side? with
    | none =>
      rw [onUnset_of_object hside]
      exact ha.of_get?_eq (fun _ => rfl) rfl fun side => headerEvents_elsewhere hr (Or.inr hside) side rs
    | some side =>
      cases side with
      | request => exact ha.onUnset_request hr hside
      | response =>
        refine ha.onUnset_response hr hside ?_
        by_contra hsome
        exact horderly hsome hside
  · have hne := canonicalName_ne hn hcanonical hname
    obtain ⟨hheaders, hbuffer⟩ := get?_onUnset_of_ne hne b
    exact ha.of_get?_eq hheaders hbuffer fun side => headerEvents_elsewhere hr (Or.inl hname) side rs

/-! ## Runs -/

theorem Agrees.push (h : Agrees name rs b) (r : Record) : Agrees name rs (b.push r) :=
  h.of_get?_eq (fun side => by rw [headers_push]) rfl fun _ => rfl

theorem Agrees.accept (ha : Agrees name rs b) (hb : b.Sound) (hn : canonicalName name = name)
    (hr : r.FromLine)
    (hp : isProxyManaged name = true → OneDirection name (rs ++ [r]) ∧ b.Orderly r) :
    Agrees name (rs ++ [r]) (b.accept r) := by
  have hpush := ha.push r
  have hbpush := hb.push r
  have horderly : b.buffer.get? name ≠ none →
      r.headerSide? ≠ some .response ∧ (r.payload = .vclCall → b.lastSide = some .request) := by
    intro hsome
    obtain ⟨g, hg⟩ := Option.ne_none_iff_exists'.mp hsome
    exact (hp (hb.buffered.managed name g hg)).2 (HeaderSet.size_ne_zero_of_get? hg)
  have hquiet : r.headerEvent? = none → ∀ side, headerEvents side name (rs ++ [r]) = headerEvents side name rs :=
    fun he side => headerEvents_snoc_of_none he rs
  unfold Builder.accept
  cases hpayload : r.payload with
  | vclCall =>
    have hcall := hpush.onCall hbpush fun hsome => (horderly hsome).2 hpayload
    exact hcall.of_get?_eq (fun _ => rfl) rfl (hquiet (by simp [Record.headerEvent?, hpayload]))
  | closing =>
    have hclosing := hpush.mergeRequest hbpush
    rw [← onClosing_eq] at hclosing
    exact hclosing.of_get?_eq (fun _ => rfl) rfl (hquiet (by simp [Record.headerEvent?, hpayload]))
  | header h =>
    have he := Record.headerEvent?_set_iff.mpr hpayload
    have hcanonical := canonicalName_of_fromLine hr he
    exact hpush.onHeader he (fun hm => (hp hm).1) hbpush hn hcanonical
  | unset h =>
    have he := Record.headerEvent?_unset_iff.mpr hpayload
    have hside : r.headerSide? = h.direction.side? := by rw [Record.headerSide?, he, Option.bind_some]
    have hcanonical := canonicalName_of_fromLine hr he
    refine hpush.onUnset he ?_ hn hcanonical
    intro hsome
    rw [← hside]
    exact (horderly hsome).1
  | link child =>
    have hheaders := headers_onLink (b.push r) child
    have hbuffer := buffer_onLink (b.push r) child
    exact hpush.of_get?_eq (fun side => by rw [← hheaders side]) (by rw [← hbuffer])
      (hquiet (by simp [Record.headerEvent?, hpayload]))
  | _ => exact hpush.of_get?_eq (fun _ => rfl) rfl (hquiet (by simp [Record.headerEvent?, hpayload]))

variable {vxid level : Int} {kind : TransactionKind} {line : String}

theorem agrees_of_run (hrun : Run (.started vxid kind level line) rs b) (hn : canonicalName name = name)
    (hp : isProxyManaged name = true →
      OneDirection name rs ∧ (start (.started vxid kind level line)).MeetsOrderly rs) :
    Agrees name rs b := by
  induction hrun with
  | opened hr hopening =>
    refine ⟨?_, fun _ => ?_, fun g hg => (nomatch hg), fun g hg => (nomatch hg)⟩
    · simp [headerEvents, Record.headerEvent?, hopening]
      rfl
    · simp [headerEvents, Record.headerEvent?, hopening]
      rfl
  | accept hb hr hopening ih =>
    rename_i rs b r
    have hafter := after_eq_of_run hb
    have hprefix : isProxyManaged name = true →
        OneDirection name rs ∧ (start (.started vxid kind level line)).MeetsOrderly rs :=
      fun hm => ⟨(hp hm).1.of_append, (meetsOrderly_snoc.mp (hp hm).2).1⟩
    refine (ih hprefix).accept (sound_of_run hb) hn hr ?_
    intro hm
    refine ⟨(hp hm).1, ?_⟩
    rw [hafter]
    exact (meetsOrderly_snoc.mp (hp hm).2).2

end Builder

/-- The final header of a name, told from the records, is the last live value in the header set. A
name that the proxy manages must come in one direction, and the log must be orderly. -/
theorem finalHeaders_changes_eq_live {vxid level : Int} {kind : TransactionKind} {line : String}
    {rs : List Record} {built : Transaction}
    (h : (Transaction.started vxid kind level line).BuiltFrom rs built) (side : Side) (name : String)
    (hp : isProxyManaged name = true → OneDirection (canonicalName name) rs ∧
      (Builder.start (.started vxid kind level line)).MeetsOrderly rs) :
    (finalHeaders (built.changes side)).filter (fun c => c.name == canonicalName name) =
      (((built.headers side).live name false).getLast?.map fun v => ⟨canonicalName name, v.text⟩).toList := by
  obtain ⟨b, hrun, rfl, hlast⟩ := h
  have hmanaged := isProxyManaged_canonicalName name
  have hagrees := Builder.agrees_of_run hrun (canonicalName_canonicalName name) (by rw [hmanaged]; exact hp)
  have huniform : ∀ side, Uniform (headerEvents side (canonicalName name) rs) :=
    uniform_headerEvents (by rw [hmanaged]; exact fun hm => (hp hm).1)
  have hvalue : (b.headers side).lastLive? name = lastValue? (headerEvents side (canonicalName name) rs) := by
    have hname : (b.headers side).lastLive? name = (b.headers side).lastLive? (canonicalName name) :=
      HeaderSet.lastLive?_congr_name (canonicalName_canonicalName name).symm _
    rw [hname]
    cases side with
    | request =>
      refine hagrees.request ?_
      rw [Builder.buffer_of_closing hrun hlast]
      rfl
    | response => exact hagrees.response
  rw [Builder.changes_of_run hrun, filter_finalHeaders (huniform side), ← hvalue]
  unfold HeaderSet.lastLive?
  rw [Option.map_map]
  rfl

/-- The log of a request whose client sent one value to which the proxy adds its own. -/
def forwardedRecords : List Record := [
  ⟨"Begin", "req 1 rxreq", "-- Begin req 1 rxreq", .opening ⟨"req", 1, "rxreq", 0⟩⟩,
  ⟨"ReqHeader", "Via: a", "-- ReqHeader Via: a", .header ⟨"Via", "a", .request⟩⟩,
  ⟨"ReqUnset", "Via: a", "-- ReqUnset Via: a", .unset ⟨"Via", "a", .request⟩⟩,
  ⟨"ReqHeader", "Via: a, b", "-- ReqHeader Via: a, b", .header ⟨"Via", "a, b", .request⟩⟩,
  ⟨"VCL_call", "RECV", "-- VCL_call RECV", .vclCall⟩,
  ⟨"End", "", "-- End", .closing⟩]

theorem finalHeaders_changes_forwarded :
    ∃ built, (Transaction.started 2 .request 2 "**  << Request  >> 2").BuiltFrom forwardedRecords built ∧
      isProxyManaged "Via" = true ∧ OneDirection (canonicalName "Via") forwardedRecords ∧
      (Builder.start (.started 2 .request 2 "**  << Request  >> 2")).MeetsOrderly forwardedRecords ∧
      (finalHeaders (built.changes .request)).filter (fun c => c.name == canonicalName "Via") =
        [⟨"Via", "a, b"⟩] := by
  have hrun : (Transaction.started 2 .request 2 "**  << Request  >> 2").BuiltFrom forwardedRecords
      (Builder.after (.started 2 .request 2 "**  << Request  >> 2") forwardedRecords).transaction :=
    ⟨_, Builder.run_after rfl rfl (by decide +kernel), rfl, rfl⟩
  have hone : OneDirection (canonicalName "Via") forwardedRecords := by decide +kernel
  have horderly : (Builder.start (.started 2 .request 2 "**  << Request  >> 2")).MeetsOrderly
      forwardedRecords := by decide +kernel
  have hfinal := finalHeaders_changes_eq_live hrun .request "Via" fun _ => ⟨hone, horderly⟩
  exact ⟨_, hrun, by decide +kernel, hone, horderly, hfinal.trans (by decide +kernel)⟩

end ProxyLog
