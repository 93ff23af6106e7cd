import Mathlib.Data.List.Induction
import ProxyLog.Proofs.Header.Set
import ProxyLog.Transaction.Run

/-!
# The buffer of a builder

Whatever records a builder takes in, its buffer holds headers that the proxy manages, each under its
canonical name and with at least one value, and only while headers come in from the client. A call
and the end of the transaction empty it.

* `Builder.take b r`, `Builder.after t rs`: a run, computed.
* `Builder.headers b side`: the headers of a side.
* `HeaderSet.Buffered hs`: what is true of every buffer.
* `Builder.Sound b`: the buffer is such a set, and outside the client phase it is empty.
* `Sound.onCall_of_lastSide`, `Sound.onCall_of_none`: a call merges the buffer or drops it.
* `onHeader_of_buffered`, `onHeader_of_not_buffered`, `onUnset_eq`: what a header that is set or unset
  does.
* `wellFormed_of_run`: the header sets of a run are well-formed.
* `sound_of_run`: every run leads to a sound builder; `buffer_of_closing`: its end finds no buffer.
-/

set_option autoImplicit false

namespace ProxyLog

namespace HeaderSet
variable {hs : HeaderSet} {name other : String}

theorem eq_empty_of_size (h : hs.size = 0) : hs = empty := by
  obtain ⟨⟨items⟩⟩ := hs
  have hitems : items = [] := List.length_eq_zero_iff.mp h
  rw [hitems]
  rfl

theorem size_ne_zero_of_get? {g : Header} (h : hs.get? name = some g) : hs.size ≠ 0 := by
  intro hsize
  rw [eq_empty_of_size hsize] at h
  cases h

/-- The headers of a buffer: the proxy manages them, and each has a value. -/
structure Buffered (hs : HeaderSet) : Prop where
  wellFormed : hs.WellFormed
  managed : ∀ name g, hs.get? name = some g → isProxyManaged name = true
  nonempty : ∀ name g, hs.get? name = some g → g.values ≠ []

theorem buffered_empty : empty.Buffered where
  wellFormed := wellFormed_empty
  managed := fun _ _ h => nomatch h
  nonempty := fun _ _ h => nomatch h

theorem Buffered.add (h : hs.Buffered) (hm : isProxyManaged name = true) (text : String)
    (state : HeaderState) : (hs.add name text state).Buffered where
  wellFormed := h.wellFormed.add name text state
  managed := by
    intro other g hg
    by_cases hsame : canonicalName other = canonicalName name
    · rw [isProxyManaged_congr hsame, hm]
    · rw [get?_add_of_ne hs hsame] at hg
      exact h.managed other g hg
  nonempty := by
    intro other g hg
    by_cases hsame : canonicalName other = canonicalName name
    · rw [get?_congr hsame, get?_add_self] at hg
      obtain rfl := Option.some.inj hg
      simp [Header.add]
    · rw [get?_add_of_ne hs hsame] at hg
      exact h.nonempty other g hg

theorem Buffered.delete (h : hs.Buffered) (name : String) (alsoReceived : Bool) :
    (hs.delete name alsoReceived).Buffered where
  wellFormed := h.wellFormed.delete name alsoReceived
  managed := by
    intro other g hg
    by_cases hsame : canonicalName other = canonicalName name
    · rw [get?_congr hsame, get?_delete_self] at hg
      obtain ⟨g', hg', -⟩ := Option.map_eq_some_iff.mp hg
      rw [isProxyManaged_congr hsame]
      exact h.managed name g' hg'
    · rw [get?_delete_of_ne hs hsame] at hg
      exact h.managed other g hg
  nonempty := by
    intro other g hg
    by_cases hsame : canonicalName other = canonicalName name
    · rw [get?_congr hsame, get?_delete_self] at hg
      obtain ⟨g', hg', rfl⟩ := Option.map_eq_some_iff.mp hg
      have hvalues := h.nonempty name g' hg'
      simpa [Header.delete] using hvalues
    · rw [get?_delete_of_ne hs hsame] at hg
      exact h.nonempty other g hg

end HeaderSet

namespace Builder
variable {b : Builder}

/-! ## Runs as computations -/

/-- Takes in a record as a run does. -/
def take (b : Builder) (r : Record) : Builder :=
  match r.payload with
  | .opening parent => b.opened r parent
  | _ => b.accept r

/-- The builder after some records. -/
def after (t : Transaction) (rs : List Record) : Builder := rs.foldl take (start t)

theorem take_of_ne_opening {r : Record} (h : r.family ≠ .opening) (b : Builder) : b.take r = b.accept r := by
  unfold take
  split
  · next parent hp => exact absurd (by simp [Record.family, hp, Payload.family]) h
  · rfl

theorem after_snoc (t : Transaction) (rs : List Record) (r : Record) :
    after t (rs ++ [r]) = (after t rs).take r := by
  rw [after, List.foldl_append]
  rfl

theorem after_eq_of_run {t : Transaction} {rs : List Record} {b : Builder} (h : Run t rs b) :
    b = after t rs := by
  induction h with
  | opened hr hp => simp [after, take, hp]
  | accept hb hr hp ih =>
    rw [after_snoc, take_of_ne_opening hp, ← ih]

/-- Any records of a log are taken in, if the first opens the transaction and no other does. -/
theorem run_after {t : Transaction} {first : Record} {parent : Edge} {rest : List Record}
    (hfirst : (Record.ofLine first.line).result = .ok first) (hopening : first.payload = .opening parent)
    (hrest : ∀ r ∈ rest, (Record.ofLine r.line).result = .ok r ∧ r.family ≠ .opening) :
    Run t (first :: rest) (after t (first :: rest)) := by
  induction rest using List.reverseRecOn with
  | nil =>
    have hopened : after t [first] = (start t).opened first parent := by simp [after, take, hopening]
    rw [hopened]
    exact .opened ⟨_, hfirst⟩ hopening
  | append_singleton rest r ih =>
    obtain ⟨hline, hfamily⟩ := hrest r (by simp)
    have hrun := ih fun q hq => hrest q (List.mem_append_left _ hq)
    have hstep := hrun.accept ⟨_, hline⟩ hfamily
    rw [← take_of_ne_opening hfamily, ← after_snoc] at hstep
    exact hstep

/-! ## Headers of a side -/

def headers (b : Builder) (side : Side) : HeaderSet := b.transaction.headers side

theorem headers_mapHeaders_self (b : Builder) (side : Side) (f : HeaderSet → HeaderSet) :
    (b.mapHeaders side f).headers side = f (b.headers side) := by
  cases side <;> rfl

theorem headers_mapHeaders_of_ne {side other : Side} (h : other ≠ side) (b : Builder)
    (f : HeaderSet → HeaderSet) : (b.mapHeaders side f).headers other = b.headers other := by
  cases side <;> cases other <;> first | rfl | exact absurd rfl h

@[simp] theorem headers_push (b : Builder) (r : Record) (side : Side) :
    (b.push r).headers side = b.headers side := by
  cases side <;> rfl

theorem headers_onLink (b : Builder) (child : Edge) (side : Side) :
    (b.onLink child).headers side = b.headers side := by
  unfold onLink
  split
  · rfl
  · cases side <;> rfl

theorem buffer_onLink (b : Builder) (child : Edge) : (b.onLink child).buffer = b.buffer := by
  unfold onLink
  split <;> rfl

theorem clientPhase_onLink (b : Builder) (child : Edge) : (b.onLink child).clientPhase = b.clientPhase := by
  unfold onLink
  split <;> rfl

/-! ## Sound builders -/

/-- The buffer is one of managed headers, and outside the client phase it is empty. -/
structure Sound (b : Builder) : Prop where
  buffered : b.buffer.Buffered
  idle : b.clientPhase = false → b.buffer = .empty

theorem sound_start (t : Transaction) : (start t).Sound := ⟨HeaderSet.buffered_empty, fun _ => rfl⟩

theorem mergeBuffer_of_empty (h : b.buffer = .empty) (side : Side) : b.mergeBuffer side = b := by
  obtain ⟨t, clientPhase, lastSide, buffer⟩ := b
  obtain rfl : buffer = .empty := h
  cases side <;> rfl

/-- A call merges the buffer into the headers of the side that was coming in. -/
theorem Sound.onCall_of_lastSide (hb : b.Sound) {side : Side} (h : b.lastSide = some side) :
    b.onCall = { b.mergeBuffer side with clientPhase := false } := by
  unfold onCall
  split
  · rw [h]
  · next hphase =>
    have hp : b.clientPhase = false := by simpa using hphase
    rw [mergeBuffer_of_empty (hb.idle hp), ← hp]

/-- A call drops the buffer when no header has come in yet. -/
theorem Sound.onCall_of_none (hb : b.Sound) (h : b.lastSide = none) :
    b.onCall = { b with clientPhase := false, buffer := .empty } := by
  unfold onCall
  split
  · rw [h]
  · next hphase =>
    have hp : b.clientPhase = false := by simpa using hphase
    rw [← hp, ← hb.idle hp]

theorem onClosing_eq (b : Builder) : b.onClosing = b.mergeBuffer .request := by
  unfold onClosing
  split
  · next h => rw [mergeBuffer_of_empty (HeaderSet.eq_empty_of_size h)]
  · rfl

theorem Sound.buffer_onCall (hb : b.Sound) : b.onCall.buffer = .empty := by
  cases h : b.lastSide with
  | none => rw [hb.onCall_of_none h]
  | some side => rw [hb.onCall_of_lastSide h]; rfl

theorem sound_of_buffer (h : b.buffer = .empty) : b.Sound := by
  refine ⟨?_, fun _ => h⟩
  rw [h]
  exact HeaderSet.buffered_empty

/-! ## Headers that are set and unset -/

variable {h : HeaderLine} {side : Side}

/-- While headers come in, a managed one goes into the buffer. -/
theorem onHeader_of_buffered (hside : h.direction.side? = some side)
    (hc : (b.clientPhase && h.isManaged) = true) :
    b.onHeader h = { b with lastSide := some side, buffer := b.buffer.addProcessed h.name h.value } := by
  obtain ⟨hphase, hm⟩ := Bool.and_eq_true_iff.mp hc
  simp [onHeader, hside, hphase, hm]

/-- Any other header is one more value in the headers of its side. -/
theorem onHeader_of_not_buffered (hside : h.direction.side? = some side)
    (hc : (b.clientPhase && h.isManaged) = false) :
    ∃ state, state ≠ HeaderState.deleted ∧
      b.onHeader h = { b with lastSide := some side }.mapHeaders side (·.add h.name h.value state) := by
  cases hphase : b.clientPhase with
  | true =>
    have hm : h.isManaged = false := by simpa [hphase] using hc
    exact ⟨.received, by simp, by simp [onHeader, hside, hphase, hm]⟩
  | false =>
    refine ⟨if (b.headers side).first h.name false = "" then .added else .modified, ?_, ?_⟩
    · split <;> simp
    · have hprocessed : b.onHeader h =
          { b with lastSide := some side }.mapHeaders side (·.addProcessed h.name h.value) := by
        simp [onHeader, hside, hphase]
      rw [hprocessed, hphase]
      cases side <;> rfl

/-- An unset marks the values of a name as deleted, in the headers of its side and in the buffer. -/
theorem onUnset_eq (hside : h.direction.side? = some side) (b : Builder) :
    b.onUnset h =
      { b.mapHeaders side (·.delete h.name true) with
        buffer :=
          (if b.clientPhase && h.isManaged then b.buffer.add h.name h.value .received
            else b.buffer).delete h.name false } := by
  simp [onUnset, hside]

theorem onHeader_of_object (hside : h.direction.side? = none) (b : Builder) : b.onHeader h = b := by
  simp [onHeader, hside]

theorem onUnset_of_object (hside : h.direction.side? = none) (b : Builder) : b.onUnset h = b := by
  simp [onUnset, hside]

theorem clientPhase_onHeader (b : Builder) (h : HeaderLine) : (b.onHeader h).clientPhase = b.clientPhase := by
  cases hside : h.direction.side? with
  | none => rw [onHeader_of_object hside]
  | some side =>
    cases hc : b.clientPhase && h.isManaged with
    | true => rw [onHeader_of_buffered hside hc]
    | false =>
      obtain ⟨state, -, heq⟩ := onHeader_of_not_buffered hside hc
      rw [heq]
      rfl

theorem clientPhase_onUnset (b : Builder) (h : HeaderLine) : (b.onUnset h).clientPhase = b.clientPhase := by
  cases hside : h.direction.side? with
  | none => rw [onUnset_of_object hside]
  | some side =>
    rw [onUnset_eq hside]
    rfl

theorem get?_mapHeaders_of_eq {name : String} {f : HeaderSet → HeaderSet}
    (hf : ∀ hs : HeaderSet, (f hs).get? name = hs.get? name) (b : Builder) (side other : Side) :
    ((b.mapHeaders side f).headers other).get? name = (b.headers other).get? name := by
  by_cases ho : other = side
  · rw [ho, headers_mapHeaders_self, hf]
  · rw [headers_mapHeaders_of_ne ho]

theorem get?_onHeader_of_ne {name : String} (hn : canonicalName name ≠ canonicalName h.name) (b : Builder) :
    (∀ other, ((b.onHeader h).headers other).get? name = (b.headers other).get? name) ∧
      (b.onHeader h).buffer.get? name = b.buffer.get? name := by
  cases hside : h.direction.side? with
  | none =>
    rw [onHeader_of_object hside]
    exact ⟨fun _ => rfl, rfl⟩
  | some side =>
    cases hc : b.clientPhase && h.isManaged with
    | true =>
      rw [onHeader_of_buffered hside hc]
      exact ⟨fun _ => rfl, HeaderSet.get?_add_of_ne _ hn _ _⟩
    | false =>
      obtain ⟨state, -, heq⟩ := onHeader_of_not_buffered hside hc
      rw [heq]
      refine ⟨fun other => ?_, rfl⟩
      exact get?_mapHeaders_of_eq (fun hs => HeaderSet.get?_add_of_ne hs hn _ _) _ side other

theorem get?_onUnset_of_ne {name : String} (hn : canonicalName name ≠ canonicalName h.name) (b : Builder) :
    (∀ other, ((b.onUnset h).headers other).get? name = (b.headers other).get? name) ∧
      (b.onUnset h).buffer.get? name = b.buffer.get? name := by
  cases hside : h.direction.side? with
  | none =>
    rw [onUnset_of_object hside]
    exact ⟨fun _ => rfl, rfl⟩
  | some side =>
    rw [onUnset_eq hside]
    refine ⟨fun other => ?_, ?_⟩
    · exact get?_mapHeaders_of_eq (fun hs => HeaderSet.get?_delete_of_ne hs hn _) _ side other
    · simp only
      rw [HeaderSet.get?_delete_of_ne _ hn]
      split
      · exact HeaderSet.get?_add_of_ne _ hn _ _
      · rfl

theorem Sound.onHeader (hb : b.Sound) (h : HeaderLine) : (b.onHeader h).Sound := by
  cases hside : h.direction.side? with
  | none =>
    rw [onHeader_of_object hside]
    exact hb
  | some side =>
    cases hc : b.clientPhase && h.isManaged with
    | true =>
      obtain ⟨hphase, hm⟩ := Bool.and_eq_true_iff.mp hc
      rw [onHeader_of_buffered hside hc]
      refine ⟨hb.buffered.add (HeaderLine.isManaged_iff.mp hm).2 _ _, ?_⟩
      intro hidle
      exact absurd (hphase.symm.trans hidle) (by simp)
    | false =>
      obtain ⟨state, -, heq⟩ := onHeader_of_not_buffered hside hc
      rw [heq]
      exact ⟨hb.buffered, hb.idle⟩

theorem Sound.onUnset (hb : b.Sound) (h : HeaderLine) : (b.onUnset h).Sound := by
  cases hside : h.direction.side? with
  | none =>
    rw [onUnset_of_object hside]
    exact hb
  | some side =>
    rw [onUnset_eq hside]
    refine ⟨?_, ?_⟩
    · cases hc : b.clientPhase && h.isManaged with
      | false => exact hb.buffered.delete h.name false
      | true =>
        obtain ⟨-, hm⟩ := Bool.and_eq_true_iff.mp hc
        exact (hb.buffered.add (HeaderLine.isManaged_iff.mp hm).2 h.value .received).delete h.name false
    · intro hidle
      have hphase : b.clientPhase = false := hidle
      simp only [hphase, Bool.false_and, hb.idle hphase]
      rfl

theorem Sound.push (hb : b.Sound) (r : Record) : (b.push r).Sound := ⟨hb.buffered, hb.idle⟩

theorem Sound.accept (hb : b.Sound) (r : Record) : (b.accept r).Sound := by
  have hpush := hb.push r
  unfold Builder.accept
  simp only
  split
  · exact sound_of_buffer hpush.buffer_onCall
  · exact ⟨hb.buffered, fun h => nomatch h⟩
  · refine ⟨?_, ?_⟩
    · rw [buffer_onLink]
      exact hb.buffered
    · rw [buffer_onLink, clientPhase_onLink]
      exact hb.idle
  · exact hpush.onHeader _
  · exact hpush.onUnset _
  · rw [onClosing_eq]
    exact sound_of_buffer rfl
  · exact hpush

variable {t : Transaction} {rs : List Record}

theorem sound_of_run (h : Run t rs b) : b.Sound := by
  induction h with
  | opened hr hp => exact ⟨(sound_start t).buffered, (sound_start t).idle⟩
  | accept hb hr hp ih => exact ih.accept _

theorem wellFormed_mapHeaders {f : HeaderSet → HeaderSet} (hb : ∀ side, (b.headers side).WellFormed)
    (hf : ∀ hs : HeaderSet, hs.WellFormed → (f hs).WellFormed) (side other : Side) :
    ((b.mapHeaders side f).headers other).WellFormed := by
  by_cases ho : other = side
  · rw [ho, headers_mapHeaders_self]
    exact hf _ (hb side)
  · rw [headers_mapHeaders_of_ne ho]
    exact hb other

theorem wellFormed_onCall (hb : ∀ side, (b.headers side).WellFormed) (hs : b.Sound) (side : Side) :
    (b.onCall.headers side).WellFormed := by
  cases hlast : b.lastSide with
  | none =>
    rw [hs.onCall_of_none hlast]
    exact hb side
  | some last =>
    rw [hs.onCall_of_lastSide hlast]
    exact wellFormed_mapHeaders hb (fun _ h => h.merge b.buffer) last side

theorem wellFormed_onHeader (hb : ∀ side, (b.headers side).WellFormed) (h : HeaderLine) (side : Side) :
    ((b.onHeader h).headers side).WellFormed := by
  cases hside : h.direction.side? with
  | none =>
    rw [onHeader_of_object hside]
    exact hb side
  | some other =>
    cases hc : b.clientPhase && h.isManaged with
    | true =>
      rw [onHeader_of_buffered hside hc]
      exact hb side
    | false =>
      obtain ⟨state, -, heq⟩ := onHeader_of_not_buffered hside hc
      rw [heq]
      have hsame : ∀ side, ({ b with lastSide := some other }.headers side).WellFormed := hb
      exact wellFormed_mapHeaders hsame (fun _ h => h.add _ _ _) other side

theorem wellFormed_onUnset (hb : ∀ side, (b.headers side).WellFormed) (h : HeaderLine) (side : Side) :
    ((b.onUnset h).headers side).WellFormed := by
  cases hside : h.direction.side? with
  | none =>
    rw [onUnset_of_object hside]
    exact hb side
  | some other =>
    rw [onUnset_eq hside]
    exact wellFormed_mapHeaders hb (fun _ h => h.delete _ _) other side

theorem wellFormed_accept (hb : ∀ side, (b.headers side).WellFormed) (hs : b.Sound) (r : Record) (side : Side) :
    ((b.accept r).headers side).WellFormed := by
  have hpush : ∀ side, ((b.push r).headers side).WellFormed := by
    intro side
    rw [headers_push]
    exact hb side
  unfold accept
  simp only
  split
  · exact wellFormed_onCall hpush ⟨hs.buffered, hs.idle⟩ side
  · exact hpush side
  · rw [headers_onLink]
    exact hpush side
  · exact wellFormed_onHeader hpush _ side
  · exact wellFormed_onUnset hpush _ side
  · rw [onClosing_eq]
    exact wellFormed_mapHeaders hpush (fun _ h => h.merge _) .request side
  · exact hpush side

theorem wellFormed_of_run {vxid level : Int} {kind : TransactionKind} {line : String}
    (h : Run (.started vxid kind level line) rs b) (side : Side) : (b.headers side).WellFormed := by
  induction h generalizing side with
  | opened hr hp => cases side <;> exact HeaderSet.wellFormed_empty
  | accept hb hr hp ih => exact wellFormed_accept ih (sound_of_run hb) _ side

/-- The end of a transaction leaves nothing in the buffer. -/
theorem buffer_of_closing (h : Run t rs b) (hl : rs.getLast?.map (·.payload) = some .closing) :
    b.buffer = .empty := by
  cases h with
  | opened hr hp =>
    rw [List.getLast?_singleton, Option.map_some, hp] at hl
    cases hl
  | accept hb hr hp =>
    rw [List.getLast?_concat, Option.map_some] at hl
    have hr := Option.some.inj hl
    simp only [Builder.accept, hr, onClosing_eq]
    rfl

theorem fromLine_of_run (h : Run t rs b) : ∀ r ∈ rs, r.FromLine := by
  induction h with
  | opened hr hp =>
    intro r hmem
    rw [List.mem_singleton.mp hmem]
    exact hr
  | accept hb hr hp ih =>
    intro r hmem
    rcases List.mem_append.mp hmem with hmem | hmem
    · exact ih r hmem
    · rw [List.mem_singleton.mp hmem]
      exact hr

theorem records_of_run {vxid level : Int} {kind : TransactionKind} {line : String}
    (h : Run (.started vxid kind level line) rs b) : b.transaction.records = rs := by
  induction h with
  | opened hr hp => rfl
  | accept hb hr hp ih => rw [records_accept, ih]

theorem changes_of_run {vxid level : Int} {kind : TransactionKind} {line : String}
    (h : Run (.started vxid kind level line) rs b) (side : Side) :
    b.transaction.changes side = headerChanges side rs := by
  rw [Transaction.changes, records_of_run h]

end Builder

end ProxyLog
