import ProxyLog.Proofs.Header.Received
import ProxyLog.Proofs.Transaction.FinalView
import ProxyLog.Proofs.Transaction.Step

/-!
# What was received

The received values of a name are those of its headers of the client phases. Of a header that the proxy
manages they are the values that are unset there: only an unset tells what the client sent.

* `receivedTexts_of_run`: the received values of an ordinary name, on either side.
* `unsetValues_of_run`: those of a managed one, in the headers of the request and in the buffer.
* `received_eq_clientValues`: the received view of the request, and the incoming headers of its changes.
-/

set_option autoImplicit false

namespace ProxyLog
namespace Builder
variable {name : String} {b : Builder} {r : Record} {rs : List Record} {h : HeaderLine} {side : Side}
variable {vxid level : Int} {kind : TransactionKind} {line : String}

/-! ## Ordinary names -/

theorem receivedTexts_accept_header (hr : r.headerEvent? = some ⟨h, false⟩) (hside : h.direction.side? = some side)
    (hm : h.isManaged = false) (b : Builder) :
    ((b.accept r).headers side).receivedTexts h.name =
      (b.headers side).receivedTexts h.name ++ if b.clientPhase then [h.value] else [] := by
  rw [headers_accept_header hr hside (by rw [hm, Bool.and_false])]
  cases b.clientPhase with
  | true =>
    have hadd := HeaderSet.receivedTexts_add_self (b.headers side) h.name h.value .received
    exact hadd
  | false =>
    have hprocessed := HeaderSet.receivedTexts_addProcessed_self (b.headers side) h.name h.value
    exact hprocessed.trans (List.append_nil _).symm

theorem receivedTexts_accept_unset (hr : r.headerEvent? = some ⟨h, true⟩) (hside : h.direction.side? = some side)
    (b : Builder) : ((b.accept r).headers side).receivedTexts h.name = (b.headers side).receivedTexts h.name := by
  rw [headers_accept_unset hr hside, HeaderSet.receivedTexts_delete]

/-- An ordinary name received the values of its headers of the client phases. -/
theorem receivedTexts_of_run (hrun : Run (.started vxid kind level line) rs b) (hn : canonicalName name = name)
    (hm : isProxyManaged name = false) (side : Side) :
    (b.headers side).receivedTexts name = setValues side name (incomingRecords .request rs) := by
  induction hrun with
  | opened hr hp =>
    rename_i first parent
    have hno : setValues side name (incomingRecords .request [first]) = [] := by
      simp [incomingRecords, incomingRecordsFrom, setValues, headerEvents, Record.headerEvent?, hp]
    rw [hno]
    cases side <;> rfl
  | accept hb hr hp ih =>
    rename_i rs b r
    have hphase := clientPhase_of_run hb
    rw [setValues_incomingRecords_snoc, ← ih, ← hphase]
    rcases eventCases side name r with ⟨h, he, hside, rfl⟩ | ⟨h, he, hside, rfl⟩ | hno
    · rw [receivedTexts_accept_header he hside (HeaderLine.isManaged_of_name hm), (values_singleton_of_event he hside).1]
      rfl
    · rw [receivedTexts_accept_unset he hside, (values_singleton_of_event he hside).1]
      simp
    · have hsame := get?_accept_other (sound_of_run hb) hn hm hr hno
      rw [HeaderSet.receivedTexts_congr hsame, (values_singleton_of_not hno).1, ite_self, List.append_nil]

/-! ## Names that the proxy manages -/

theorem clean_accept (hc : b.buffer.Clean) (hb : b.Sound) (r : Record) : (b.accept r).buffer.Clean := by
  have hpush : (b.push r).buffer.Clean := hc
  have hbpush := hb.push r
  unfold accept
  cases hr : r.payload with
  | vclCall =>
    simp only [hbpush.buffer_onCall]
    exact HeaderSet.clean_set_empty
  | closing =>
    simp only [onClosing_eq]
    exact HeaderSet.clean_set_empty
  | link child =>
    simp only [buffer_onLink]
    exact hpush
  | header h =>
    cases hside : h.direction.side? with
    | none =>
      simp only [onHeader_of_object hside]
      exact hpush
    | some side =>
      cases hbuffered : (b.push r).clientPhase && h.isManaged with
      | true =>
        simp only [onHeader_of_buffered hside hbuffered]
        exact hpush.addProcessed h.name h.value
      | false =>
        obtain ⟨state, -, heq⟩ := onHeader_of_not_buffered hside hbuffered
        simp only [heq]
        exact hpush
  | unset h =>
    cases hside : h.direction.side? with
    | none =>
      simp only [onUnset_of_object hside]
      exact hpush
    | some side =>
      simp only [onUnset_eq hside]
      split
      · exact hpush.add_delete h.name h.value
      · exact hpush.delete h.name
  | _ => exact hpush

theorem clean_of_run {t : Transaction} (hrun : Run t rs b) : b.buffer.Clean := by
  induction hrun with
  | opened hr hp => exact HeaderSet.clean_set_empty
  | accept hb hr hp ih => exact clean_accept ih (sound_of_run hb) _

/-- What a name has received in the headers of the request and, while it waits, in the buffer. -/
def receivedRequest (b : Builder) (name : String) : List String :=
  (b.headers .request).receivedTexts name ++ b.buffer.receivedTexts name

theorem receivedRequest_congr {b' : Builder}
    (hheaders : (b'.headers .request).receivedTexts name = (b.headers .request).receivedTexts name)
    (hbuffer : b'.buffer.receivedTexts name = b.buffer.receivedTexts name) :
    b'.receivedRequest name = b.receivedRequest name := by
  rw [receivedRequest, receivedRequest, hheaders, hbuffer]

theorem receivedRequest_push (b : Builder) (r : Record) (name : String) :
    (b.push r).receivedRequest name = b.receivedRequest name :=
  receivedRequest_congr rfl rfl

theorem receivedRequest_mergeBuffer (hb : b.Sound) (hc : b.buffer.Clean) (name : String) :
    (b.mergeBuffer .request).receivedRequest name = b.receivedRequest name := by
  have hmerge := HeaderSet.receivedTexts_merge hb.buffered.wellFormed hc name (b.headers .request)
  exact (List.append_nil _).trans hmerge

/-- A call brings a name that waits to the request if the last header was one of the request. -/
theorem receivedRequest_onCall (hb : b.Sound) (hc : b.buffer.Clean)
    (hlast : b.buffer.get? name ≠ none → b.lastSide = some .request) :
    b.onCall.receivedRequest name = b.receivedRequest name := by
  cases hg : b.buffer.get? name with
  | none =>
    have hempty : b.buffer.receivedTexts name = [] := HeaderSet.receivedTexts_of_none hg
    refine receivedRequest_congr (HeaderSet.receivedTexts_congr (get?_onCall_of_none hb hg .request)) ?_
    rw [hb.buffer_onCall, hempty]
    rfl
  | some g =>
    rw [hb.onCall_of_lastSide (hlast (by simp [hg])), ← receivedRequest_mergeBuffer hb hc]
    rfl

theorem receivedRequest_onHeader_managed (hm : h.isManaged = true) (b : Builder) :
    (b.onHeader h).receivedRequest h.name = b.receivedRequest h.name := by
  have hside := HeaderLine.side?_of_isManaged hm
  cases hphase : b.clientPhase with
  | true =>
    rw [onHeader_of_buffered hside (by rw [hphase, hm]; rfl)]
    exact receivedRequest_congr rfl (HeaderSet.receivedTexts_addProcessed_self _ _ _)
  | false =>
    have hprocessed : b.onHeader h =
        { b with lastSide := some .request }.mapHeaders .request (·.addProcessed h.name h.value) := by
      simp [onHeader, hside, hphase]
    rw [hprocessed]
    exact receivedRequest_congr (HeaderSet.receivedTexts_addProcessed_self _ _ _) rfl

theorem receivedRequest_onUnset_managed (hm : h.isManaged = true) (b : Builder) :
    (b.onUnset h).receivedRequest h.name =
      b.receivedRequest h.name ++ if b.clientPhase then [h.value] else [] := by
  have hside := HeaderLine.side?_of_isManaged hm
  have hheaders : ((b.onUnset h).headers .request).receivedTexts h.name =
      (b.headers .request).receivedTexts h.name := by
    rw [onUnset_eq hside]
    exact HeaderSet.receivedTexts_delete _ _ _ _
  -- In a client phase the unset tells what the client sent: the value is received and deleted at once.
  have hbuffer : (b.onUnset h).buffer.receivedTexts h.name =
      b.buffer.receivedTexts h.name ++ if b.clientPhase then [h.value] else [] := by
    rw [onUnset_eq hside]
    simp only [hm, Bool.and_true, HeaderSet.receivedTexts_delete]
    cases b.clientPhase with
    | true => exact HeaderSet.receivedTexts_add_self _ _ _ _
    | false => exact (List.append_nil _).symm
  rw [receivedRequest, receivedRequest, hheaders, hbuffer, List.append_assoc]

theorem receivedRequest_onHeader_other
    (helse : canonicalName name ≠ canonicalName h.name ∨ h.direction.side? ≠ some .request) (b : Builder) :
    (b.onHeader h).receivedRequest name = b.receivedRequest name := by
  rcases helse with hne | hside
  · obtain ⟨hheaders, hbuffer⟩ := get?_onHeader_of_ne hne b
    exact receivedRequest_congr (HeaderSet.receivedTexts_congr (hheaders .request))
      (HeaderSet.receivedTexts_congr hbuffer)
  · have hm := HeaderLine.isManaged_of_side hside
    have hbuffer : (b.onHeader h).buffer = b.buffer := by
      cases hs : h.direction.side? with
      | none => rw [onHeader_of_object hs]
      | some side =>
        obtain ⟨state, -, heq⟩ := onHeader_of_not_buffered hs (by rw [hm, Bool.and_false])
        rw [heq]
        rfl
    rw [receivedRequest, receivedRequest, headers_onHeader_of_side hside, hbuffer]

theorem receivedRequest_onUnset_other
    (helse : canonicalName name ≠ canonicalName h.name ∨ h.direction.side? ≠ some .request) (b : Builder) :
    (b.onUnset h).receivedRequest name = b.receivedRequest name := by
  rcases helse with hne | hside
  · obtain ⟨hheaders, hbuffer⟩ := get?_onUnset_of_ne hne b
    exact receivedRequest_congr (HeaderSet.receivedTexts_congr (hheaders .request))
      (HeaderSet.receivedTexts_congr hbuffer)
  · have hm := HeaderLine.isManaged_of_side hside
    have hbuffer : (b.onUnset h).buffer.receivedTexts name = b.buffer.receivedTexts name := by
      cases hs : h.direction.side? with
      | none => rw [onUnset_of_object hs]
      | some side =>
        rw [onUnset_eq hs]
        simp only [hm, Bool.and_false, Bool.false_eq_true, if_false, HeaderSet.receivedTexts_delete]
    rw [receivedRequest, receivedRequest, headers_onUnset_of_side hside, hbuffer]

/-- While headers come in, a managed name receives the values that are unset. -/
theorem receivedRequest_accept (hb : b.Sound) (hc : b.buffer.Clean) (hn : canonicalName name = name)
    (hm : isProxyManaged name = true) (hr : r.FromLine) (horderly : b.Orderly r)
    (hclient : ∀ e, r.headerEvent? = some e → e.isOf .request name = true → e.line.direction = .request) :
    (b.accept r).receivedRequest name =
      b.receivedRequest name ++ if b.clientPhase then unsetValues .request name [r] else [] := by
  have hbpush := hb.push r
  have hphase : (b.push r).clientPhase = b.clientPhase := rfl
  rcases eventCases .request name r with ⟨h, he, hside, rfl⟩ | ⟨h, he, hside, rfl⟩ | hno
  · have hmanaged : h.isManaged = true :=
      HeaderLine.isManaged_iff.mpr ⟨hclient _ he (HeaderEvent.isOf_iff.mpr ⟨hside, rfl⟩), hm⟩
    rw [accept_header he, receivedRequest_onHeader_managed hmanaged, receivedRequest_push,
      (values_singleton_of_event he hside).2]
    simp
  · have hmanaged : h.isManaged = true :=
      HeaderLine.isManaged_iff.mpr ⟨hclient _ he (HeaderEvent.isOf_iff.mpr ⟨hside, rfl⟩), hm⟩
    rw [accept_unset he, receivedRequest_onUnset_managed hmanaged, receivedRequest_push, hphase,
      (values_singleton_of_event he hside).2]
    rfl
  · -- Of other records only a call and the end move what waits, and both bring it to the request.
    rw [(values_singleton_of_not hno).2, ite_self, List.append_nil, ← receivedRequest_push b r]
    cases hpayload : r.payload with
    | vclCall =>
      simp only [accept, hpayload]
      refine receivedRequest_onCall hbpush hc fun hsome => ?_
      obtain ⟨g, hg⟩ := Option.ne_none_iff_exists'.mp hsome
      exact (horderly (HeaderSet.size_ne_zero_of_get? hg)).2 hpayload
    | closing =>
      simp only [accept, hpayload, onClosing_eq]
      exact receivedRequest_mergeBuffer hbpush hc name
    | link child =>
      simp only [accept, hpayload]
      refine receivedRequest_congr ?_ ?_
      · rw [headers_onLink]
      · rw [buffer_onLink]
    | header h =>
      have he := Record.headerEvent?_set_iff.mpr hpayload
      rw [accept_header he]
      exact receivedRequest_onHeader_other (name_ne_or_side_ne hn hr he (hno _ he)) _
    | unset h =>
      have he := Record.headerEvent?_unset_iff.mpr hpayload
      rw [accept_unset he]
      exact receivedRequest_onUnset_other (name_ne_or_side_ne hn hr he (hno _ he)) _
    | status code => simp only [accept, hpayload]; rfl
    | _ => simp only [accept, hpayload]

theorem unsetValues_of_run (hrun : Run (.started vxid kind level line) rs b) (hn : canonicalName name = name)
    (hm : isProxyManaged name = true) (hclient : ∀ e ∈ headerEvents .request name rs, e.line.direction = .request)
    (horderly : (start (.started vxid kind level line)).MeetsOrderly rs) :
    b.receivedRequest name = unsetValues .request name (incomingRecords .request rs) := by
  induction hrun with
  | opened hr hp =>
    rename_i first parent
    have hno : unsetValues .request name (incomingRecords .request [first]) = [] := by
      simp [incomingRecords, incomingRecordsFrom, unsetValues, headerEvents, Record.headerEvent?, hp]
    rw [hno]
    rfl
  | accept hb hr hp ih =>
    rename_i rs b r
    obtain ⟨hbefore, hlast⟩ := meetsOrderly_snoc.mp horderly
    have hafter := after_eq_of_run hb
    have hphase := clientPhase_of_run hb
    rw [headerEvents_append] at hclient
    have hstep := receivedRequest_accept (sound_of_run hb) (clean_of_run hb) hn hm hr (by rw [hafter]; exact hlast)
      fun e he hof => hclient e (List.mem_append_right _ (by simp [headerEvents, he, hof]))
    rw [hstep, unsetValues_incomingRecords_snoc, ← hphase,
      ih (fun e he => hclient e (List.mem_append_left _ he)) hbefore]

end Builder

/-- The received view of the request. For an ordinary name it is what its headers of the client phases set, in
order; the name came in just when there is such a header, and with the value of the first one if the message
is not started over. For a name that the proxy manages, and that only the client's headers have, it is what
its unsets of the client phases tell, in an orderly log. -/
theorem received_eq_clientValues {vxid level : Int} {kind : TransactionKind} {line : String} {rs : List Record}
    {built : Transaction} (h : (Transaction.started vxid kind level line).BuiltFrom rs built) (name : String) :
    (isProxyManaged name = false →
      ((built.headers .request).values name true).map (·.text) =
          setValues .request (canonicalName name) (clientRecords rs) ∧
        (canonicalName name ∈ (incomingHeaders (built.changes .request)).map (·.name) ↔
          setValues .request (canonicalName name) (clientRecords rs) ≠ []) ∧
        ((rs.Pairwise fun call r => call.family = .vclCall → r.family ≠ .status) →
          (incomingHeaders (built.changes .request)).filter (fun c => c.name == canonicalName name) =
            ((setValues .request (canonicalName name) (clientRecords rs)).head?.map
              fun v => ⟨canonicalName name, v⟩).toList)) ∧
    (isProxyManaged name = true →
      (∀ e ∈ headerEvents .request (canonicalName name) rs, e.line.direction = .request) →
      (Builder.start (.started vxid kind level line)).MeetsOrderly rs →
      ((built.headers .request).values name true).map (·.text) =
        unsetValues .request (canonicalName name) (clientRecords rs)) := by
  obtain ⟨b, hrun, rfl, hlast⟩ := h
  have hn := canonicalName_canonicalName name
  have hvalues : ((b.transaction.headers .request).values name true).map (·.text) =
      (b.headers .request).receivedTexts (canonicalName name) :=
    (HeaderSet.receivedTexts_congr_name hn (b.headers .request)).symm
  rw [setValues_clientRecords, unsetValues_clientRecords, Builder.changes_of_run hrun, hvalues]
  constructor
  · intro hm
    rw [← isProxyManaged_canonicalName] at hm
    have hmem := mem_incomingHeaders_iff_setValues hm .request rs
    refine ⟨Builder.receivedTexts_of_run hrun hn hm .request, hmem, fun honce => ?_⟩
    refine filter_incomingHeaders hm (honce.imp fun hstatus hopens => hstatus ?_)
    rw [Record.family, (Record.vclCall_of_opens hopens).1]
    rfl
  · intro hm hclient horderly
    rw [← isProxyManaged_canonicalName] at hm
    have hkept := Builder.unsetValues_of_run hrun hn hm hclient horderly
    rw [← hkept, Builder.receivedRequest, Builder.buffer_of_closing hrun hlast]
    exact (List.append_nil _).symm

/-- The log of a request with an ordinary header, sent twice and then set, and a managed one. -/
def taggedRecords : List Record := [
  ⟨"Begin", "req 1 rxreq", "-- Begin req 1 rxreq", .opening ⟨"req", 1, "rxreq", 0⟩⟩,
  ⟨"ReqHeader", "X-Tag: 1", "-- ReqHeader X-Tag: 1", .header ⟨"X-Tag", "1", .request⟩⟩,
  ⟨"ReqHeader", "X-Tag: 2", "-- ReqHeader X-Tag: 2", .header ⟨"X-Tag", "2", .request⟩⟩,
  ⟨"ReqHeader", "Via: a", "-- ReqHeader Via: a", .header ⟨"Via", "a", .request⟩⟩,
  ⟨"ReqUnset", "Via: a", "-- ReqUnset Via: a", .unset ⟨"Via", "a", .request⟩⟩,
  ⟨"ReqHeader", "Via: a, b", "-- ReqHeader Via: a, b", .header ⟨"Via", "a, b", .request⟩⟩,
  ⟨"VCL_call", "RECV", "-- VCL_call RECV", .vclCall⟩,
  ⟨"ReqHeader", "X-Tag: 3", "-- ReqHeader X-Tag: 3", .header ⟨"X-Tag", "3", .request⟩⟩,
  ⟨"End", "", "-- End", .closing⟩]

theorem received_eq_clientValues_tagged :
    ∃ built, (Transaction.started 2 .request 2 "**  << Request  >> 2").BuiltFrom taggedRecords built ∧
      isProxyManaged "X-Tag" = false ∧
      (taggedRecords.Pairwise fun call r => call.family = .vclCall → r.family ≠ .status) ∧
      ((built.headers .request).values "X-Tag" true).map (·.text) = ["1", "2"] ∧
      (incomingHeaders (built.changes .request)).filter (fun c => c.name == canonicalName "X-Tag") =
        [⟨"X-Tag", "1"⟩] ∧
      isProxyManaged "Via" = true ∧
      (∀ e ∈ headerEvents .request (canonicalName "Via") taggedRecords, e.line.direction = .request) ∧
      (Builder.start (.started 2 .request 2 "**  << Request  >> 2")).MeetsOrderly taggedRecords ∧
      ((built.headers .request).values "Via" true).map (·.text) = ["a"] := by
  have hrun : (Transaction.started 2 .request 2 "**  << Request  >> 2").BuiltFrom taggedRecords
      (Builder.after (.started 2 .request 2 "**  << Request  >> 2") taggedRecords).transaction :=
    ⟨_, Builder.run_after rfl rfl (by decide +kernel), rfl, rfl⟩
  have hordinary : isProxyManaged "X-Tag" = false := by decide +kernel
  have honce : taggedRecords.Pairwise fun call r => call.family = .vclCall → r.family ≠ .status := by
    decide +kernel
  have hmanaged : isProxyManaged "Via" = true := by decide +kernel
  have hclient : ∀ e ∈ headerEvents .request (canonicalName "Via") taggedRecords, e.line.direction = .request := by
    decide +kernel
  have horderly : (Builder.start (.started 2 .request 2 "**  << Request  >> 2")).MeetsOrderly taggedRecords := by
    decide +kernel
  obtain ⟨htexts, -, hincoming⟩ := (received_eq_clientValues hrun "X-Tag").1 hordinary
  have hvia := (received_eq_clientValues hrun "Via").2 hmanaged hclient horderly
  exact ⟨_, hrun, hordinary, honce, htexts.trans (by decide +kernel), (hincoming honce).trans (by decide +kernel),
    hmanaged, hclient, horderly, hvia.trans (by decide +kernel)⟩

end ProxyLog
