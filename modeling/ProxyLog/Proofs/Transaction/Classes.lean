import ProxyLog.Proofs.Transaction.Received

/-!
# Two classes of one header

The changes of a request and its header set tell apart what was received, added and modified, each in its own
way: the changes ask whether the header came in, the set asks for the text of its first value. They agree
but for a header that did not come in and is set again.

* `Builder.MeetsText name b rs`: no header that is set in processing finds an empty value in front.
* `exists_lastSet`: the state of a change is told by the last header of the name.
* `Builder.Classed name rs b`: a builder and a reading class the last value of a name alike.
* `live_state_of_change`: the state of the last live value of a header, told by its change.
-/

set_option autoImplicit false

namespace ProxyLog
namespace Builder

/-! ## Texts in front -/

/-- A header of the name that is set in processing does not find an empty value in front. -/
def FindsText (name : String) (b : Builder) (r : Record) : Prop :=
  b.clientPhase = false → setValues .request name [r] ≠ [] →
    ((b.headers .request).values name false).head?.map (·.text) ≠ some ""

instance (name : String) (b : Builder) (r : Record) : Decidable (b.FindsText name r) := by
  unfold FindsText
  infer_instance

/-- Each of some records finds text in front of the name. -/
def MeetsText (name : String) : Builder → List Record → Prop
  | _, [] => True
  | b, r :: rs => b.FindsText name r ∧ MeetsText name (b.take r) rs

instance decidableMeetsText (name : String) : (b : Builder) → (rs : List Record) → Decidable (b.MeetsText name rs)
  | _, [] => isTrue trivial
  | b, r :: rs =>
    have := decidableMeetsText name (b.take r) rs
    inferInstanceAs (Decidable (b.FindsText name r ∧ MeetsText name (b.take r) rs))

variable {name : String} {b : Builder} {r : Record} {rs : List Record} {h : HeaderLine}

theorem meetsText_snoc : b.MeetsText name (rs ++ [r]) ↔ b.MeetsText name rs ∧ (rs.foldl take b).FindsText name r := by
  induction rs generalizing b with
  | nil => simp [MeetsText]
  | cons q rs ih => simp [MeetsText, ih, and_assoc]

end Builder

variable {name : String} {rs : List Record}

/-! ## The last header of a name -/

/-- A change that is not deleted is as the last header of the name left it, and was received just when headers
came in at that time. -/
theorem exists_lastSet (hm : isProxyManaged name = false) {side : Side} {c : HeaderChange}
    (hc : (DiffState.reading side rs).current? name = some c) (hlive : c.state ≠ .deleted) :
    ∃ front r back, rs = front ++ r :: back ∧ setValues side name [r] ≠ [] ∧ setValues side name back = [] ∧
      (c.state = .received ↔ isArriving side front = true) := by
  induction rs using List.reverseRecOn with
  | nil => cases hc
  | append_singleton rs r ih =>
    rcases DiffState.current?_reading_cases hm side rs r with
      ⟨h, -, -, -, hset, hcurrent⟩ | ⟨h, -, -, -, -, hcurrent⟩ | ⟨-, hquiet, hcurrent⟩
    · rw [hcurrent] at hc
      obtain rfl := Option.some.inj hc
      exact ⟨rs, r, [], rfl, by simp [hset], rfl, HeaderChange.received_afterSet_iff _ _ h⟩
    · -- An unset leaves the name deleted or unknown.
      exact absurd (HeaderChange.state_of_afterUnset (hcurrent.symm.trans hc)) hlive
    · obtain ⟨front, q, back, rfl, hset, hback, hstate⟩ := ih (hcurrent.symm.trans hc)
      refine ⟨front, q, back ++ [r], by simp, hset, ?_, hstate⟩
      rw [setValues_append, hback, hquiet]
      rfl

/-! ## A builder and a reading -/

namespace Builder
variable {b : Builder} {r : Record} {h : HeaderLine}

/-- The state of the last live value that belongs to a change of a name that was set `count` times. -/
def liveState (c : HeaderChange) (count : Nat) : HeaderState :=
  if c.state = .added ∧ 1 < count then .modified else c.state

/-- A builder keeps a value of the name from its first header on, and the last one that is live has the state
that belongs to the change. -/
structure Classed (name : String) (rs : List Record) (b : Builder) : Prop where
  stored : (b.headers .request).values name false = [] ↔ setValues .request name rs = []
  live : ∀ c, (DiffState.reading .request rs).current? name = some c → c.state ≠ .deleted →
    ∃ v, ((b.headers .request).live name false).getLast? = some v ∧
      v.state = liveState c (setValues .request name rs).length

theorem values_delete_eq_nil (hs : HeaderSet) (name : String) (alsoReceived : Bool) :
    (hs.delete name alsoReceived).values name false = [] ↔ hs.values name false = [] := by
  unfold HeaderSet.values
  rw [HeaderSet.get?_delete_self]
  cases hs.get? name with
  | none => exact Iff.rfl
  | some g => simp [Header.delete, Header.list]

/-- The state in which a header is stored: a processed one is added if nothing is stored, and modified
otherwise. -/
theorem getLast?_live_accept (hr : r.headerEvent? = some ⟨h, false⟩) (hside : h.direction.side? = some .request)
    (hm : h.isManaged = false) (htext : b.FindsText h.name r) :
    ((b.accept r).headers .request).values h.name false ≠ [] ∧
      (((b.accept r).headers .request).live h.name false).getLast? = some ⟨h.value,
        if b.clientPhase then .received
        else if (b.headers .request).values h.name false = [] then .added else .modified⟩ := by
  have hset : setValues .request h.name [r] ≠ [] := by simp [(values_singleton_of_event hr hside).1]
  rw [headers_accept_header hr hside (by rw [hm, Bool.and_false])]
  cases hphase : b.clientPhase with
  | true =>
    obtain ⟨vs, hvs⟩ := HeaderSet.values_add_self (b.headers .request) h.name h.value .received
    have hlast := HeaderSet.getLast?_live_add_self (b.headers .request) h.name h.value
      (show HeaderState.received ≠ .deleted by simp)
    exact ⟨by simp [hvs], hlast⟩
  | false =>
    -- The set asks for the text of the first value; where that is never empty, it asks for a value.
    have hfirst : (b.headers .request).first h.name false = "" ↔ (b.headers .request).values h.name false = [] := by
      have hfront := htext hphase hset
      unfold HeaderSet.first
      cases hv : (b.headers .request).values h.name false with
      | nil => simp
      | cons v vs => simpa [hv] using hfront
    obtain ⟨vs, hvs⟩ := HeaderSet.values_add_self (b.headers .request) h.name h.value
      (if (b.headers .request).first h.name false = "" then .added else .modified)
    have hlast := HeaderSet.getLast?_live_add_self (b.headers .request) h.name h.value
      (show (if (b.headers .request).first h.name false = "" then HeaderState.added else .modified) ≠ .deleted by
        split <;> simp)
    rw [if_neg (by simp), if_neg (by simp), HeaderSet.addProcessed]
    refine ⟨by simp [hvs], hlast.trans ?_⟩
    simp only [hfirst]

theorem liveState_afterSet (hm : isProxyManaged name = false) (rs : List Record) (h : HeaderLine) :
    liveState (.afterSet (isArriving .request rs) ((DiffState.reading .request rs).current? name) h)
        ((setValues .request name rs).length + 1) =
      if isArriving .request rs then .received
      else if setValues .request name rs = [] then .added else .modified := by
  have hsublist := setValues_sublist .request name (incomingRecords_sublist .request rs)
  rw [liveState, HeaderChange.afterSet, DiffState.any_cameIn_reading hm]
  cases isArriving .request rs with
  | true => rfl
  | false =>
    cases hall : setValues .request name rs with
    | nil =>
      rw [hall] at hsublist
      rw [List.sublist_nil.mp hsublist]
      rfl
    | cons v vs => cases setValues .request name (incomingRecords .request rs) <;> simp

theorem Classed.accept (hk : Classed name rs b) (hb : b.Sound) (hphase : b.clientPhase = isArriving .request rs)
    (hn : canonicalName name = name) (hm : isProxyManaged name = false) (hr : r.FromLine)
    (htext : b.FindsText name r) : Classed name (rs ++ [r]) (b.accept r) := by
  have happend := setValues_append .request name rs [r]
  rcases DiffState.current?_reading_cases hm .request rs r with
    ⟨h, he, hside, rfl, hset, hcurrent⟩ | ⟨h, he, hside, rfl, hset, hcurrent⟩ | ⟨hno, hset, hcurrent⟩
  · obtain ⟨hvalues, hlast⟩ := getLast?_live_accept he hside (HeaderLine.isManaged_of_name hm) htext
    rw [hset] at happend
    refine ⟨?_, ?_⟩
    · rw [happend]
      simp [hvalues]
    · intro c hc _
      rw [hcurrent] at hc
      obtain rfl := Option.some.inj hc
      refine ⟨_, hlast, ?_⟩
      rw [happend, List.length_append, List.length_singleton, liveState_afterSet hm, hphase]
      simp only [hk.stored]
  · rw [hset, List.append_nil] at happend
    refine ⟨?_, ?_⟩
    · rw [headers_accept_unset he hside, values_delete_eq_nil, hk.stored, happend]
    · intro c hc hlive
      exact absurd (HeaderChange.state_of_afterUnset (hcurrent.symm.trans hc)) hlive
  · rw [hset, List.append_nil] at happend
    have hsame := get?_accept_other hb hn hm hr hno
    refine ⟨?_, ?_⟩
    · rw [HeaderSet.values_congr hsame, happend]
      exact hk.stored
    · rw [HeaderSet.live, HeaderSet.values_congr hsame, happend, hcurrent]
      exact hk.live

variable {vxid level : Int} {kind : TransactionKind} {line : String}

theorem classed_of_run (hrun : Run (.started vxid kind level line) rs b) (hn : canonicalName name = name)
    (hm : isProxyManaged name = false) (htext : (start (.started vxid kind level line)).MeetsText name rs) :
    Classed name rs b := by
  induction hrun with
  | opened hr hp =>
    rename_i first parent
    have hquiet : first.headerEvent? = none := by simp [Record.headerEvent?, hp]
    have hset : setValues .request name [first] = [] := by simp [setValues, headerEvents, hquiet]
    have hcurrent : (DiffState.reading .request [first]).current? name = none := by
      simp [DiffState.reading, DiffState.step, hp]
      rfl
    refine ⟨?_, ?_⟩
    · rw [hset]
      exact ⟨fun _ => rfl, fun _ => rfl⟩
    · intro c hc
      rw [hcurrent] at hc
      cases hc
  | accept hb hr hp ih =>
    rename_i rs b r
    obtain ⟨hbefore, hlast⟩ := meetsText_snoc.mp htext
    have hafter := after_eq_of_run hb
    exact (ih hbefore).accept (sound_of_run hb) (clientPhase_of_run hb) hn hm hr (by rw [hafter]; exact hlast)

end Builder

/-- The state of the last live value of an ordinary request header is that of its change, but that a header that
did not come in is modified once it is set again. The change is one of an added header when no header of the
name is of a client phase, of a received one when the last header is, and of a modified one otherwise. A
header must not find an empty value in front when it is set in processing. -/
theorem live_state_of_change {vxid level : Int} {kind : TransactionKind} {line : String} {built : Transaction}
    (h : (Transaction.started vxid kind level line).BuiltFrom rs built) (name : String)
    (hm : isProxyManaged name = false)
    (htext : (Builder.start (.started vxid kind level line)).MeetsText (canonicalName name) rs)
    {c : HeaderChange} (hc : c ∈ built.changes .request) (hname : c.name = canonicalName name)
    (hlive : c.state ≠ .deleted) :
    (∃ v, ((built.headers .request).live name false).getLast? = some v ∧ v.state =
        if c.state = .added ∧ 1 < (setValues .request (canonicalName name) rs).length then .modified else c.state) ∧
      (c.state = .added ↔ setValues .request (canonicalName name) (clientRecords rs) = []) ∧
      ∃ front r back, rs = front ++ r :: back ∧ setValues .request (canonicalName name) [r] ≠ [] ∧
        setValues .request (canonicalName name) back = [] ∧
        (c.state = .received ↔ isArriving .request front = true) := by
  obtain ⟨b, hrun, rfl, -⟩ := h
  have hn := canonicalName_canonicalName name
  rw [← isProxyManaged_canonicalName] at hm
  have hu := DiffState.uniform_of_not_managed hm .request rs
  have hcurrent : (DiffState.reading .request rs).current? (canonicalName name) = some c := by
    rw [Builder.changes_of_run hrun] at hc
    have hmem : c ∈ (headerChanges .request rs).filter fun d => d.name == canonicalName name :=
      List.mem_filter.mpr ⟨hc, beq_iff_eq.mpr hname⟩
    rw [filter_headerChanges hu, DiffState.current?_reading_recordsAbout] at hmem
    exact Option.mem_toList.mp hmem
  have hclassed := Builder.classed_of_run hrun hn hm htext
  have hcame := DiffState.any_cameIn_reading hm .request rs
  rw [hcurrent, Option.any_some] at hcame
  refine ⟨?_, ?_, exists_lastSet hm hcurrent hlive⟩
  · have hlast := hclassed.live c hcurrent hlive
    rw [HeaderSet.live, HeaderSet.values, HeaderSet.get?_congr hn] at hlast
    exact hlast
  · rw [setValues_clientRecords]
    unfold HeaderChange.cameIn at hcame
    cases hs : setValues .request (canonicalName name) (incomingRecords .request rs) <;> simpa [hs] using hcame

/-- The log of a request whose header is set twice in processing. -/
def retaggedRecords : List Record := [
  ⟨"Begin", "req 1 rxreq", "-- Begin req 1 rxreq", .opening ⟨"req", 1, "rxreq", 0⟩⟩,
  ⟨"VCL_call", "RECV", "-- VCL_call RECV", .vclCall⟩,
  ⟨"ReqHeader", "X-Tag: 1", "-- ReqHeader X-Tag: 1", .header ⟨"X-Tag", "1", .request⟩⟩,
  ⟨"ReqHeader", "X-Tag: 2", "-- ReqHeader X-Tag: 2", .header ⟨"X-Tag", "2", .request⟩⟩,
  ⟨"End", "", "-- End", .closing⟩]

theorem live_state_of_change_retagged :
    ∃ built c, (Transaction.started 2 .request 2 "**  << Request  >> 2").BuiltFrom retaggedRecords built ∧
      isProxyManaged "X-Tag" = false ∧
      (Builder.start (.started 2 .request 2 "**  << Request  >> 2")).MeetsText (canonicalName "X-Tag")
        retaggedRecords ∧
      c ∈ built.changes .request ∧ c.name = canonicalName "X-Tag" ∧ c.state = .added ∧
      ∃ v, ((built.headers .request).live "X-Tag" false).getLast? = some v ∧ v.state = .modified := by
  have hrun : (Transaction.started 2 .request 2 "**  << Request  >> 2").BuiltFrom retaggedRecords
      (Builder.after (.started 2 .request 2 "**  << Request  >> 2") retaggedRecords).transaction :=
    ⟨_, Builder.run_after rfl rfl (by decide +kernel), rfl, rfl⟩
  have hordinary : isProxyManaged "X-Tag" = false := by decide +kernel
  have htext : (Builder.start (.started 2 .request 2 "**  << Request  >> 2")).MeetsText (canonicalName "X-Tag")
      retaggedRecords := by decide +kernel
  have hchange : (⟨"X-Tag", "1", "2", .added⟩ : HeaderChange) ∈
      (Builder.after (.started 2 .request 2 "**  << Request  >> 2") retaggedRecords).transaction.changes .request := by
    decide +kernel
  obtain ⟨⟨v, hv, hstate⟩, -⟩ := live_state_of_change hrun "X-Tag" hordinary htext hchange (by decide +kernel) (by simp)
  exact ⟨_, _, hrun, hordinary, htext, hchange, by decide +kernel, rfl, v, hv, hstate.trans (by decide +kernel)⟩

/-- The header was added, and its last live value is modified. -/
theorem live_state_ne_retagged :
    ∃ built c v, (Transaction.started 2 .request 2 "**  << Request  >> 2").BuiltFrom retaggedRecords built ∧
      isProxyManaged "X-Tag" = false ∧ c ∈ built.changes .request ∧ c.name = canonicalName "X-Tag" ∧
      c.state ≠ .deleted ∧ ((built.headers .request).live "X-Tag" false).getLast? = some v ∧ v.state ≠ c.state := by
  have hrun : (Transaction.started 2 .request 2 "**  << Request  >> 2").BuiltFrom retaggedRecords
      (Builder.after (.started 2 .request 2 "**  << Request  >> 2") retaggedRecords).transaction :=
    ⟨_, Builder.run_after rfl rfl (by decide +kernel), rfl, rfl⟩
  have hchange : (⟨"X-Tag", "1", "2", .added⟩ : HeaderChange) ∈
      (Builder.after (.started 2 .request 2 "**  << Request  >> 2") retaggedRecords).transaction.changes .request := by
    decide +kernel
  have hvalue : (((Builder.after (.started 2 .request 2 "**  << Request  >> 2") retaggedRecords).transaction.headers
      .request).live "X-Tag" false).getLast? = some ⟨"2", .modified⟩ := by decide +kernel
  exact ⟨_, _, _, hrun, by decide +kernel, hchange, by decide +kernel, by simp, hvalue, by simp⟩

end ProxyLog
