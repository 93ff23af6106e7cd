import ProxyLog.Proofs.Transaction.Waiting

/-!
# Headers on their own side

The names that should be in a header set are told by the headers that are set on its side, and by those that
the client must have sent. They are compared with the names that are in it.

* `KeptApart rs built`: each header is on its own side, and none is lost.
* `Undisturbed rs`: nothing that waits strays, and no name of what waits is lost.
* `keptApart_iff`: the first is true just when the second is.
-/

set_option autoImplicit false

namespace ProxyLog

/-! ## Headers on their own side -/

/-- A header of the name is set on the side. -/
def SetOn (side : Side) (name : String) (rs : List Record) : Prop :=
  ∃ e ∈ headerEvents side name rs, e.isUnset = false

/-- A managed header of the name is unset while headers come in from the client. -/
def ClientUnset (name : String) (rs : List Record) : Prop :=
  ∃ e ∈ headerEvents .request name (clientRecords rs), e.isUnset = true ∧ e.line.isManaged = true

/-- Each header is on its own side, and none is lost: the response has the headers that are set on its
side, the request those set on its side and the managed ones that the client must have sent. -/
structure KeptApart (rs : List Record) (built : Transaction) : Prop where
  response : ∀ name, name ∈ (built.headers .response).names ↔ SetOn .response name rs
  request : ∀ name, name ∈ (built.headers .request).names ↔ SetOn .request name rs ∨ ClientUnset name rs

/-- What waits and goes to the response is set there anyway; and of each name that waits something comes to
the request, either at once or with what waits. -/
structure Undisturbed (rs : List Record) : Prop where
  noneStrays : ∀ name, BroughtTo .response name rs → SetOn .response name rs
  noneLost : ∀ name, Once (Waits name) rs → Once (GoesAtOnce .request name) rs ∨ BroughtTo .request name rs

variable {rs : List Record} {name : String} {side : Side}

theorem mem_headerEvents_iff {e : HeaderEvent} :
    e ∈ headerEvents side name rs ↔
      (∃ r ∈ rs, r.headerEvent? = some e) ∧ e.line.direction.side? = some side ∧ e.line.name = name := by
  rw [headerEvents, List.mem_filter, List.mem_filterMap, HeaderEvent.isOf_iff]

theorem setOn_iff : SetOn side name rs ↔ Once (fun _ r => r.Sets side name) rs := by
  constructor
  · rintro ⟨⟨h, isUnset⟩, he, hunset⟩
    obtain rfl : isUnset = false := hunset
    obtain ⟨⟨r, hr, hevent⟩, hside, hname⟩ := mem_headerEvents_iff.mp he
    obtain ⟨front, back, rfl⟩ := List.append_of_mem hr
    exact ⟨front, r, back, rfl, h, Record.headerEvent?_set_iff.mp hevent, hside, hname⟩
  · rintro ⟨front, r, back, rfl, h, hr, hside, hname⟩
    have hevent := Record.headerEvent?_set_iff.mpr hr
    exact ⟨⟨h, false⟩, mem_headerEvents_iff.mpr ⟨⟨r, by simp, hevent⟩, hside, hname⟩, rfl⟩

theorem clientUnset_iff :
    ClientUnset name rs ↔ Once (fun front r => isArriving .request front = true ∧ r.UnsetsManaged name) rs := by
  unfold ClientUnset
  rw [headerEvents_clientRecords]
  constructor
  · rintro ⟨⟨h, isUnset⟩, he, hunset, hm⟩
    obtain rfl : isUnset = true := hunset
    obtain ⟨⟨r, hr, hevent⟩, -, hname⟩ := mem_headerEvents_iff.mp he
    obtain ⟨front, s, back, rfl, harriving, rfl⟩ := mem_incomingRecords.mp hr
    exact ⟨front, s, back, rfl, harriving, h, Record.headerEvent?_unset_iff.mp hevent, hm, hname⟩
  · rintro ⟨front, r, back, rfl, harriving, h, hr, hm, hname⟩
    have hmem : r ∈ incomingRecords .request (front ++ r :: back) :=
      mem_incomingRecords.mpr ⟨front, r, back, rfl, harriving, rfl⟩
    have hevent := Record.headerEvent?_unset_iff.mpr hr
    exact ⟨⟨h, true⟩, mem_headerEvents_iff.mpr ⟨⟨r, hmem, hevent⟩, HeaderLine.side?_of_isManaged hm, hname⟩, rfl, hm⟩

theorem SetOn.of_goesAtOnce (h : Once (GoesAtOnce side name) rs) : SetOn side name rs := by
  obtain ⟨front, r, back, hrs, hset, -⟩ := h
  exact setOn_iff.mpr ⟨front, r, back, hrs, hset⟩

/-- A name waits if a header of it is set, or if the client sent it. -/
theorem setOn_or_clientUnset (h : Once (Waits name) rs) : SetOn .request name rs ∨ ClientUnset name rs := by
  obtain ⟨front, r, back, hrs, harriving, hset | hunset⟩ := h
  · obtain ⟨g, hr, hm, hname⟩ := hset
    exact Or.inl (setOn_iff.mpr ⟨front, r, back, hrs, g, hr, HeaderLine.side?_of_isManaged hm, hname⟩)
  · exact Or.inr (clientUnset_iff.mpr ⟨front, r, back, hrs, harriving, hunset⟩)

theorem exists_event_of_waits (h : Once (Waits name) rs) :
    ∃ r ∈ rs, ∃ e, r.headerEvent? = some e ∧ e.line.isManaged = true ∧ e.line.name = name := by
  obtain ⟨front, r, back, rfl, -, ⟨g, hr, hm, hname⟩ | ⟨g, hr, hm, hname⟩⟩ := h
  · exact ⟨r, by simp, _, Record.headerEvent?_set_iff.mpr hr, hm, hname⟩
  · exact ⟨r, by simp, _, Record.headerEvent?_unset_iff.mpr hr, hm, hname⟩

theorem ClientUnset.once_waits (h : ClientUnset name rs) : Once (Waits name) rs := by
  obtain ⟨front, r, back, hrs, harriving, hunset⟩ := clientUnset_iff.mp h
  exact ⟨front, r, back, hrs, harriving, Or.inr hunset⟩

/-- A header that is set goes to its side at once, or it is one of the request and waits. -/
theorem SetOn.cases (h : SetOn side name rs) :
    Once (GoesAtOnce side name) rs ∨ (side = .request ∧ Once (Waits name) rs) := by
  obtain ⟨front, r, back, hrs, hset⟩ := setOn_iff.mp h
  by_cases hwaits : isArriving .request front = true ∧ r.SetsManaged name
  · -- What waits is managed, and only headers of the request are.
    refine Or.inr ⟨?_, front, r, back, hrs, hwaits.1, Or.inl hwaits.2⟩
    obtain ⟨g, hr, hside, -⟩ := hset
    obtain ⟨g', hr', hm, -⟩ := hwaits.2
    obtain rfl : g = g' := by
      rw [hr] at hr'
      cases hr'
      rfl
    rw [HeaderLine.side?_of_isManaged hm] at hside
    exact (Option.some.inj hside).symm
  · exact Or.inl ⟨front, r, back, hrs, hset, hwaits⟩

/-! ## The names of the header sets -/

/-- A name that comes to a side is one of a record, and so canonical. -/
theorem canonicalName_of_brings (hlines : ∀ r ∈ rs, r.FromLine) (h : (ledger rs).brings side name = true) :
    canonicalName name = name := by
  rcases (brings_ledger side name rs).mp h with ⟨front, r, back, rfl, ⟨g, hr, -, rfl⟩, -⟩ | hbrought
  · have hcanonical := canonicalName_of_fromLine (hlines r (by simp)) (Record.headerEvent?_set_iff.mpr hr)
    exact hcanonical
  · obtain ⟨r, hr, e, he, -, rfl⟩ := exists_event_of_waits hbrought.once_waits
    exact canonicalName_of_fromLine (hlines r hr) he

/-- The names of a header set are those that went to its side at once or waited and were brought there. -/
theorem mem_names_iff {vxid level : Int} {kind : TransactionKind} {line : String} {b : Builder}
    (hrun : Builder.Run (.started vxid kind level line) rs b) (side : Side) :
    name ∈ (b.headers side).names ↔ Once (GoesAtOnce side name) rs ∨ BroughtTo side name rs := by
  rw [Builder.mem_names_of_run hrun, ← brings_ledger]
  constructor
  · exact And.right
  · intro h
    exact ⟨canonicalName_of_brings (Builder.fromLine_of_run hrun) h, h⟩

/-- Each header of a finished transaction is on its own side, and none is lost, just when nothing that waits
strays and no name of what waits is lost. -/
theorem keptApart_iff {vxid level : Int} {kind : TransactionKind} {line : String} {built : Transaction}
    (h : (Transaction.started vxid kind level line).BuiltFrom rs built) :
    KeptApart rs built ↔ Undisturbed rs := by
  obtain ⟨b, hrun, rfl, -⟩ := h
  have hnames (side : Side) (name : String) : name ∈ (b.transaction.headers side).names ↔
      Once (GoesAtOnce side name) rs ∨ BroughtTo side name rs := mem_names_iff hrun side
  constructor
  · intro h
    refine ⟨?_, ?_⟩
    · intro name hbrought
      rw [← h.response, hnames]
      exact Or.inr hbrought
    · intro name hwaits
      rw [← hnames, h.request]
      exact setOn_or_clientUnset hwaits
  · intro h
    refine ⟨?_, ?_⟩
    · intro name
      rw [hnames]
      constructor
      · rintro (hdirect | hbrought)
        · exact .of_goesAtOnce hdirect
        · exact h.noneStrays name hbrought
      · intro hset
        rcases hset.cases with hdirect | ⟨hside, -⟩
        · exact Or.inl hdirect
        · cases hside
    · intro name
      rw [hnames]
      constructor
      · rintro (hdirect | hbrought)
        · exact Or.inl (.of_goesAtOnce hdirect)
        · exact setOn_or_clientUnset hbrought.once_waits
      · rintro (hset | hunset)
        · rcases hset.cases with hdirect | ⟨-, hwaits⟩
          · exact Or.inl hdirect
          · exact h.noneLost name hwaits
        · exact h.noneLost name hunset.once_waits

/-- The log of a request whose client sent one value to which the proxy adds its own. -/
def proxiedRecords : List Record := [
  ⟨"Begin", "req 1 rxreq", "-- Begin req 1 rxreq", .opening ⟨"req", 1, "rxreq", 0⟩⟩,
  ⟨"ReqHeader", "Via: a", "-- ReqHeader Via: a", .header ⟨"Via", "a", .request⟩⟩,
  ⟨"ReqUnset", "Via: a", "-- ReqUnset Via: a", .unset ⟨"Via", "a", .request⟩⟩,
  ⟨"ReqHeader", "Via: a, b", "-- ReqHeader Via: a, b", .header ⟨"Via", "a, b", .request⟩⟩,
  ⟨"VCL_call", "RECV", "-- VCL_call RECV", .vclCall⟩,
  ⟨"RespHeader", "Age: 1", "-- RespHeader Age: 1", .header ⟨"Age", "1", .response⟩⟩,
  ⟨"End", "", "-- End", .closing⟩]

theorem keptApart_proxied : ∃ built,
    (Transaction.started 2 .request 2 "**  << Request  >> 2").BuiltFrom proxiedRecords built ∧
      Undisturbed proxiedRecords ∧ KeptApart proxiedRecords built := by
  have hrun : (Transaction.started 2 .request 2 "**  << Request  >> 2").BuiltFrom proxiedRecords
      (Builder.after (.started 2 .request 2 "**  << Request  >> 2") proxiedRecords).transaction :=
    ⟨_, Builder.run_after rfl rfl (by decide +kernel), rfl, rfl⟩
  have hdirect : (ledger proxiedRecords).direct = [⟨"Age", "1", .response⟩] := by decide +kernel
  have hbatches : (ledger proxiedRecords).batches.all (·.side? == some .request) = true := by decide +kernel
  have hmanaged : (proxiedRecords.filterMap (·.headerEvent?)).all
      (fun e => !e.line.isManaged || e.line.name == "Via") = true := by decide +kernel
  have hundisturbed : Undisturbed proxiedRecords := by
    refine ⟨?_, ?_⟩
    · -- The one name that comes to the response is that of its header.
      intro name hbrought
      have hbrings := (brings_ledger .response name proxiedRecords).mpr (Or.inr hbrought)
      rcases Bool.or_eq_true_iff.mp hbrings with h | h
      · rw [hdirect] at h
        obtain ⟨-, rfl⟩ : _ ∧ "Age" = name := by simpa using h
        exact ⟨⟨⟨"Age", "1", .response⟩, false⟩, by decide +kernel, rfl⟩
      · obtain ⟨batch, hbatch, h⟩ := List.any_eq_true.mp h
        have hside := eq_of_beq (List.all_eq_true.mp hbatches batch hbatch)
        simp [hside] at h
    · -- The one name that waits is the client's, and the call brings it to the request.
      intro name hwaits
      obtain ⟨r, hr, e, he, hm, rfl⟩ := exists_event_of_waits hwaits
      have hvia : e.line.name = "Via" := by
        simpa [hm] using List.all_eq_true.mp hmanaged e (List.mem_filterMap.mpr ⟨r, hr, he⟩)
      rw [hvia]
      exact (brings_ledger .request "Via" proxiedRecords).mp (by decide +kernel)
  exact ⟨_, hrun, hundisturbed, (keptApart_iff hrun).mpr hundisturbed⟩

/-- A header of the client's request waits when the first header of a response and a call come. -/
def strayRecords : List Record := [
  ⟨"Begin", "req 1 rxreq", "--  Begin req 1 rxreq", .opening ⟨"req", 1, "rxreq", 0⟩⟩,
  ⟨"ReqHeader", "Via: 2", "--  ReqHeader Via: 2", .header ⟨"Via", "2", .request⟩⟩,
  ⟨"RespHeader", "A: b", "--  RespHeader A: b", .header ⟨"A", "b", .response⟩⟩,
  ⟨"VCL_call", "RECV", "--  VCL_call RECV", .vclCall⟩,
  ⟨"End", "", "--  End", .closing⟩]

/-- The call brings the waiting header to the response. -/
theorem not_keptApart_stray : ∃ built,
    (Transaction.started 2 .request 2 "**  << Request  >> 2").BuiltFrom strayRecords built ∧
      "Via" ∈ (built.headers .response).names ∧ "Via" ∉ (built.headers .request).names ∧
      ¬ KeptApart strayRecords built := by
  have hrun : (Transaction.started 2 .request 2 "**  << Request  >> 2").BuiltFrom strayRecords
      (Builder.after (.started 2 .request 2 "**  << Request  >> 2") strayRecords).transaction :=
    ⟨_, Builder.run_after rfl rfl (by decide +kernel), rfl, rfl⟩
  have hresponse : "Via" ∈ ((Builder.after (.started 2 .request 2 "**  << Request  >> 2")
      strayRecords).transaction.headers .response).names := by decide +kernel
  have hrequest : "Via" ∉ ((Builder.after (.started 2 .request 2 "**  << Request  >> 2")
      strayRecords).transaction.headers .request).names := by decide +kernel
  refine ⟨_, hrun, hresponse, hrequest, ?_⟩
  intro h
  obtain ⟨e, he, -⟩ := (h.response "Via").mp hresponse
  have hnone : headerEvents .response "Via" strayRecords = [] := by decide +kernel
  rw [hnone] at he
  cases he

end ProxyLog
