import ProxyLog.Proofs.Transaction.Received

/-!
# What the response received

The changes of a response and its header set draw the line between what came in and what was processed at
different calls: any call ends the client phase of the set, and only two calls open the response of the
changes. A header between the two lines came in for the changes, and was added for the set.

* `isArriving_response`: in the client phases headers of the response come in.
* `response_views_agree_iff`: when the two views agree that a name came in.
-/

set_option autoImplicit false

namespace ProxyLog

variable {name : String} {rs : List Record}

/-- In the client phases headers of the response come in, as they may for longer. -/
theorem isArriving_response (h : isArriving .request rs = true) : isArriving .response rs = true := by
  induction rs using List.reverseRecOn with
  | nil => rfl
  | append_singleton rs r ih =>
    rw [isArriving_snoc] at h ⊢
    unfold arrivingAfter at h ⊢
    cases hr : r.payload with
    | vclCall =>
      rw [hr] at h
      exact absurd h (by simp [opensSide])
    | status code => rfl
    | _ =>
      simp only [hr] at h ⊢
      exact ih h

theorem incomingRecords_request_sublist (rs : List Record) :
    (incomingRecords .request rs).Sublist (incomingRecords .response rs) := by
  induction rs using List.reverseRecOn with
  | nil => exact List.Sublist.refl _
  | append_singleton rs r ih =>
    rw [incomingRecords_snoc, incomingRecords_snoc]
    refine ih.append ?_
    cases h : isArriving .request rs with
    | false => exact List.nil_sublist _
    | true =>
      rw [isArriving_response h]

/-- Of an ordinary name of the response, the set received the headers of the client phases, and the changes
have one that came in when a header was set before a call that opens the response. So the two agree just when
a name that is set before such a call is also set in a client phase. -/
theorem response_views_agree_iff {vxid level : Int} {kind : TransactionKind} {line : String} {built : Transaction}
    (h : (Transaction.started vxid kind level line).BuiltFrom rs built) (name : String)
    (hm : isProxyManaged name = false) :
    ((canonicalName name ∈ (incomingHeaders (built.changes .response)).map (·.name) ↔
        (built.headers .response).values name true ≠ []) ↔
      (setValues .response (canonicalName name) (incomingRecords .response rs) ≠ [] →
        setValues .response (canonicalName name) (clientRecords rs) ≠ [])) ∧
    (canonicalName name ∈ (incomingHeaders (built.changes .response)).map (·.name) ↔
      setValues .response (canonicalName name) (incomingRecords .response rs) ≠ []) ∧
    ((built.headers .response).values name true).map (·.text) =
      setValues .response (canonicalName name) (clientRecords rs) := by
  obtain ⟨b, hrun, rfl, -⟩ := h
  have hn := canonicalName_canonicalName name
  rw [← isProxyManaged_canonicalName] at hm
  have hincoming : canonicalName name ∈ (incomingHeaders (b.transaction.changes .response)).map (·.name) ↔
      setValues .response (canonicalName name) (incomingRecords .response rs) ≠ [] := by
    rw [Builder.changes_of_run hrun]
    exact mem_incomingHeaders_iff_setValues hm .response rs
  have htexts : ((b.transaction.headers .response).values name true).map (·.text) =
      setValues .response (canonicalName name) (clientRecords rs) := by
    have hreceived := Builder.receivedTexts_of_run hrun hn hm .response
    rw [HeaderSet.receivedTexts_congr_name hn] at hreceived
    rw [setValues_clientRecords]
    exact hreceived
  have hset : (b.transaction.headers .response).values name true ≠ [] ↔
      setValues .response (canonicalName name) (clientRecords rs) ≠ [] := by
    rw [← htexts, Ne, Ne, List.map_eq_nil_iff]
  have hclient : setValues .response (canonicalName name) (clientRecords rs) ≠ [] →
      setValues .response (canonicalName name) (incomingRecords .response rs) ≠ [] := by
    rw [setValues_clientRecords]
    intro hne hnil
    have hsublist := setValues_sublist .response (canonicalName name) (incomingRecords_request_sublist rs)
    rw [hnil] at hsublist
    exact hne (List.sublist_nil.mp hsublist)
  refine ⟨?_, hincoming, htexts⟩
  rw [hincoming, hset]
  exact ⟨fun hagree => hagree.mp, fun hback => ⟨hback, hclient⟩⟩

/-- The log of a response from a backend, with a header that came in and one that was set. -/
def fetchedRecords : List Record := [
  ⟨"Begin", "bereq 2 fetch", "-- Begin bereq 2 fetch", .opening ⟨"bereq", 2, "fetch", 0⟩⟩,
  ⟨"VCL_call", "BACKEND_FETCH", "-- VCL_call BACKEND_FETCH", .vclCall⟩,
  ⟨"BerespStatus", "200", "-- BerespStatus 200", .status 200⟩,
  ⟨"BerespHeader", "X-Tag: 1", "-- BerespHeader X-Tag: 1", .header ⟨"X-Tag", "1", .backendResponse⟩⟩,
  ⟨"VCL_call", "BACKEND_RESPONSE", "-- VCL_call BACKEND_RESPONSE", .vclCall⟩,
  ⟨"BerespHeader", "X-Tag: 2", "-- BerespHeader X-Tag: 2", .header ⟨"X-Tag", "2", .backendResponse⟩⟩,
  ⟨"End", "", "-- End", .closing⟩]

theorem response_views_agree_fetched :
    ∃ built, (Transaction.started 3 .backendRequest 2 "**  << BeReq >> 3").BuiltFrom fetchedRecords built ∧
      isProxyManaged "X-Tag" = false ∧
      ((built.headers .response).values "X-Tag" true).map (·.text) = ["1"] ∧
      (canonicalName "X-Tag" ∈ (incomingHeaders (built.changes .response)).map (·.name) ↔
        (built.headers .response).values "X-Tag" true ≠ []) := by
  have hrun : (Transaction.started 3 .backendRequest 2 "**  << BeReq >> 3").BuiltFrom fetchedRecords
      (Builder.after (.started 3 .backendRequest 2 "**  << BeReq >> 3") fetchedRecords).transaction :=
    ⟨_, Builder.run_after rfl rfl (by decide +kernel), rfl, rfl⟩
  have hordinary : isProxyManaged "X-Tag" = false := by decide +kernel
  obtain ⟨hagree, -, htexts⟩ := response_views_agree_iff hrun "X-Tag" hordinary
  have hclient : setValues .response (canonicalName "X-Tag") (clientRecords fetchedRecords) = ["1"] := by
    decide +kernel
  exact ⟨_, hrun, hordinary, htexts.trans hclient, hagree.mpr fun _ => by simp [hclient]⟩

/-- The log of a response that a call makes up: a status line, and a header that is set after the call. -/
def synthRecords : List Record := [
  ⟨"Begin", "req 1 rxreq", "-- Begin req 1 rxreq", .opening ⟨"req", 1, "rxreq", 0⟩⟩,
  ⟨"RespStatus", "503", "-- RespStatus 503", .status 503⟩,
  ⟨"RespHeader", "Retry-After: 5", "-- RespHeader Retry-After: 5", .header ⟨"Retry-After", "5", .response⟩⟩,
  ⟨"VCL_call", "SYNTH", "-- VCL_call SYNTH", .vclCall⟩,
  ⟨"RespHeader", "X-Synth: 1", "-- RespHeader X-Synth: 1", .header ⟨"X-Synth", "1", .response⟩⟩,
  ⟨"End", "", "-- End", .closing⟩]

/-- No call opens the response there: the header came in for the changes, and not for the set. -/
theorem response_views_differ_synth :
    ∃ built, (Transaction.started 2 .request 2 "**  << Request  >> 2").BuiltFrom synthRecords built ∧
      isProxyManaged "X-Synth" = false ∧
      canonicalName "X-Synth" ∈ (incomingHeaders (built.changes .response)).map (·.name) ∧
      (built.headers .response).values "X-Synth" true = [] := by
  have hrun : (Transaction.started 2 .request 2 "**  << Request  >> 2").BuiltFrom synthRecords
      (Builder.after (.started 2 .request 2 "**  << Request  >> 2") synthRecords).transaction :=
    ⟨_, Builder.run_after rfl rfl (by decide +kernel), rfl, rfl⟩
  exact ⟨_, hrun, by decide +kernel, by decide +kernel, by decide +kernel⟩

end ProxyLog
