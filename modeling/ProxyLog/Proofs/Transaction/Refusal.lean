import ProxyLog.Proofs.Transaction.Taking
import ProxyLog.Transaction.Draft

/-!
# Refused records

A draft could break off in the middle of a record: behind the record that is already written down, at a call that finds
headers in the buffer and no headers to merge them into. It never does, since a header that belongs to no side is not
remembered. So the only records that are refused are those at the wrong place, and these are refused before anything
is done.

* `Draft.Sided d`: the last header of the draft, if there is one, belongs to a side.
* `Draft.Follows x d b ns`: from `d` the action comes to its end, in a sided draft of the builder `b`.
* `onCall_follows`, `onLink_follows`, ..., `handle_follows`: what each kind of record does to the builder.
* `sided_of_reached`: all drafts are sided; `reached_builder_iff`: their builders are the builders.
* `RefusesIff x d refused`: when an action breaks off, and that the draft is then as it was.
* `Agrees d step x`: the action and the step of the builder have the same outcome.
-/

set_option autoImplicit false

namespace ProxyLog.Draft

variable {t : Transaction} {d : Draft} {r : Record} {h : HeaderLine}

/-! ## Sided drafts -/

/-- The last header belongs to a side. -/
def Sided (d : Draft) : Prop := ∀ h, d.lastHeader = some h → ∃ side, h.direction.side? = some side

theorem sided_start (t : Transaction) : (start t).Sided := fun _ h => nomatch h

/-- The action comes to its end, and leaves a sided draft of this builder with these notices more. -/
def Follows (x : Drafting Unit) (d : Draft) (b : Builder) (ns : List Notice) : Prop :=
  ∃ d', x.run d = .ok () d' ∧ d'.Sided ∧ d'.builder = b ∧ d'.notices = d.notices ++ ns

theorem follows_of_ok {x : Drafting Unit} {b : Builder} (d' : Draft) (hrun : x.run d = .ok () d') (hsided : d'.Sided)
    (hbuilder : d'.builder = b) (hnotices : d'.notices = d.notices) : Follows x d b [] :=
  ⟨d', hrun, hsided, hbuilder, by rw [hnotices, List.append_nil]⟩

/-! ## One kind of record each -/

section Kinds
variable (hd : d.Sided)
include hd

theorem onCall_follows : Follows onCall d d.builder.onCall [] := by
  obtain ⟨t, clientPhase, lastHeader, buffer, notices⟩ := d
  cases clientPhase with
  | false => exact follows_of_ok _ rfl hd rfl rfl
  | true =>
    cases lastHeader with
    | none => exact follows_of_ok _ rfl hd rfl rfl
    | some h =>
      -- the one place where a side is asked for
      obtain ⟨side, hside⟩ := hd h rfl
      refine follows_of_ok ⟨t.mapHeaders side (·.merge buffer), false, some h, .empty, notices⟩ ?_ hd ?_ rfl
      · simp [onCall, mergeInto, setPhase, editHeaders, editBuffer, hside]
      · simp [builder, Builder.onCall, Builder.mergeBuffer, Builder.mapHeaders, hside]

theorem onLink_follows (child : Edge) :
    Follows (onLink child) d (d.builder.onLink child)
      (if d.transaction.children.contains child.vxid then [.repeatedChild child.txid d.transaction.txid] else []) := by
  by_cases hchild : d.transaction.children.contains child.vxid = true
  · rw [if_pos hchild]
    refine ⟨{ d with notices := d.notices ++ [.repeatedChild child.txid d.transaction.txid] }, ?_, hd, ?_, rfl⟩
    · simp only [onLink, EStateM.run_bind, EStateM.run_get, hchild, if_true]
      rfl
    · simp only [Builder.onLink, builder, hchild, if_true]
  · rw [if_neg hchild]
    refine follows_of_ok
      { d with transaction := { d.transaction with children := d.transaction.children ++ [child.vxid] } } ?_ hd ?_ rfl
    · simp only [onLink, EStateM.run_bind, EStateM.run_get, hchild]
      rfl
    · simp only [Builder.onLink, builder, hchild]
      rfl

/-- A header of no side is not remembered, so what is remembered belongs to a side. -/
theorem onHeader_follows (h : HeaderLine) : Follows (onHeader h) d (d.builder.onHeader h) [] := by
  obtain ⟨t, clientPhase, lastHeader, buffer, notices⟩ := d
  cases hside : h.direction.side? with
  | none =>
    refine follows_of_ok _ ?_ hd ?_ rfl
    · simp only [onHeader, hside]
      rfl
    · simp only [Builder.onHeader, hside]
  | some side =>
    have hsided : ∀ g, some h = some g → ∃ side, g.direction.side? = some side := by
      rintro _ ⟨⟩
      exact ⟨side, hside⟩
    cases clientPhase with
    | false =>
      refine follows_of_ok ⟨t.mapHeaders side (·.addProcessed h.name h.value), false, some h, buffer, notices⟩
        ?_ hsided ?_ rfl
      · simp [onHeader, remember, editHeaders, hside]
      · simp [builder, Builder.onHeader, Builder.mapHeaders, hside]
    | true =>
      by_cases hmanaged : h.isManaged = true
      · refine follows_of_ok ⟨t, true, some h, buffer.addProcessed h.name h.value, notices⟩ ?_ hsided ?_ rfl
        · simp [onHeader, remember, editBuffer, hside, hmanaged]
        · simp [builder, Builder.onHeader, hside, hmanaged]
      · refine follows_of_ok ⟨t.mapHeaders side (·.add h.name h.value .received), true, some h, buffer, notices⟩
          ?_ hsided ?_ rfl
        · simp [onHeader, remember, editHeaders, hside, hmanaged]
        · simp [builder, Builder.onHeader, Builder.mapHeaders, hside, hmanaged]

theorem onUnset_follows (h : HeaderLine) :
    Follows (onUnset h) d (d.builder.onUnset h)
      (if h.direction.side?.isSome && d.clientPhase && !h.isManaged then
        [.strayUnset h.name d.transaction.txid] else []) := by
  obtain ⟨t, clientPhase, lastHeader, buffer, notices⟩ := d
  cases hside : h.direction.side? with
  | none =>
    refine follows_of_ok _ ?_ hd ?_ rfl
    · simp only [onUnset, hside]
      rfl
    · simp only [Builder.onUnset, hside]
  | some side =>
    let t' := t.mapHeaders side (·.delete h.name true)
    cases clientPhase with
    | false =>
      refine follows_of_ok ⟨t', false, lastHeader, buffer.delete h.name false, notices⟩ ?_ hd ?_ rfl
      · simp [onUnset, editHeaders, editBuffer, hside, t']
      · simp [builder, Builder.onUnset, Builder.mapHeaders, hside, t']
    | true =>
      by_cases hmanaged : h.isManaged = true
      · refine ⟨⟨t', true, lastHeader, (buffer.add h.name h.value .received).delete h.name false, notices⟩, ?_, hd, ?_,
          ?_⟩
        · simp [onUnset, editHeaders, editBuffer, hside, hmanaged, t']
        · simp [builder, Builder.onUnset, Builder.mapHeaders, hside, hmanaged, t']
        · simp [hmanaged]
      · refine ⟨⟨t', true, lastHeader, buffer.delete h.name false, notices ++ [.strayUnset h.name t.txid]⟩, ?_, hd, ?_,
          ?_⟩
        · simp [onUnset, note, editHeaders, editBuffer, hside, hmanaged, t']
        · simp [builder, Builder.onUnset, Builder.mapHeaders, hside, hmanaged, t']
        · simp [hmanaged]

theorem onClosing_follows : Follows onClosing d d.builder.onClosing [] := by
  by_cases hsize : d.buffer.size = 0
  · refine follows_of_ok d ?_ hd ?_ rfl
    · simp [onClosing, hsize]
    · exact (if_pos hsize).symm
  · refine follows_of_ok
      { d with transaction := d.transaction.mapHeaders .request (·.merge d.buffer), buffer := .empty } ?_ hd ?_ rfl
    · simp [onClosing, mergeInto, editHeaders, editBuffer, hsize]
    · exact (if_neg hsize).symm

end Kinds

/-! ## Any record -/

/-- The record is written down first, which does not change what it asks for. -/
theorem push_handle_follows (hd : d.Sided) (hr : r.family ≠ .opening) :
    Follows (push r >>= fun _ => handle r.payload) d (d.builder.accept r) (d.builder.remarks r) := by
  have hpushed : Sided { d with transaction := { d.transaction with records := d.transaction.records ++ [r] } } := hd
  obtain ⟨tag, value, line, payload⟩ := r
  cases payload with
  | vclCall => exact onCall_follows hpushed
  | status n => exact follows_of_ok _ rfl hd rfl rfl
  | link child => exact onLink_follows hpushed child
  | header h => exact onHeader_follows hpushed h
  | unset h => exact onUnset_follows hpushed h
  | closing => exact onClosing_follows hpushed
  | opening parent => exact absurd rfl hr
  | _ => exact follows_of_ok _ rfl hd rfl rfl

theorem feed_eq_of_ne_opening (hr : r.family ≠ .opening) :
    feed r = (push r >>= fun _ => handle r.payload) >>= fun _ => pure (r.payload == .closing) := by
  obtain ⟨tag, value, line, payload⟩ := r
  cases payload with
  | opening parent => exact absurd rfl hr
  | _ => rfl

/-! ## Steps -/

/-- The action breaks off under this condition only, with a fault of the log's grammar and the draft as it was. -/
structure RefusesIff {α : Type} (x : Drafting α) (d : Draft) (refused : Prop) : Prop where
  iff : (∃ e d', x.run d = .error e d') ↔ refused
  untouched : ∀ e d', x.run d = .error e d' → d' = d ∧ ∃ fault, e = .refused fault

/-- The action on a draft and the step of its builder have the same result, the same notices and the same builder. -/
def Agrees {α : Type} (d : Draft) (step : BuilderStep α) : EStateM.Result Fault Draft α → Prop
  | .ok a d' =>
    step.builder = d'.builder ∧ step.outcome.result = .ok a ∧ d'.notices = d.notices ++ step.outcome.notices
  | .error e d' =>
    step.builder = d'.builder ∧ ∃ fault, e = .refused fault ∧ step.outcome = .fail (.malformed fault)

section Steps
variable {α : Type} {x : Drafting α} {step : BuilderStep α} {refused : Prop}

theorem refusesIff_of_error {fault : LogFault} (h : x.run d = .error (.refused fault) d) (hrefused : refused) :
    RefusesIff x d refused where
  iff := iff_of_true ⟨_, _, h⟩ hrefused
  untouched := by
    intro e d' herror
    rw [h] at herror
    cases herror
    exact ⟨rfl, fault, rfl⟩

theorem refusesIff_of_ok {a : α} {d' : Draft} (h : x.run d = .ok a d') (hrefused : ¬refused) :
    RefusesIff x d refused where
  iff := by
    refine iff_of_false ?_ hrefused
    rintro ⟨e, d'', herror⟩
    rw [h] at herror
    cases herror
  untouched := by
    intro e d'' herror
    rw [h] at herror
    cases herror

theorem builder_afterwards (h : Agrees d step (x.run d)) : (afterwards x d).builder = step.builder := by
  unfold afterwards
  cases hx : x.run d with
  | ok a d' =>
    rw [hx] at h
    exact h.1.symm
  | error e d' =>
    rw [hx] at h
    exact h.1.symm

end Steps

/-- All that is said of one step: when it breaks off, what its builder does, and that the draft stays sided. -/
structure Takes {α : Type} (x : Drafting α) (d : Draft) (step : BuilderStep α) (refused : Prop) : Prop where
  refuses : RefusesIff x d refused
  agrees : Agrees d step (x.run d)
  sided : (afterwards x d).Sided

theorem takes_feed (hd : d.Sided) (r : Record) : Takes (feed r) d (d.builder.feed r) (r.family = .opening) := by
  by_cases hr : r.family = .opening
  · have hrun : (feed r).run d = .error (.refused (.beginRepeated d.transaction.vxid r.line)) d := by
      obtain ⟨parent, hparent⟩ := Record.exists_payload_of_opening hr
      simp only [feed, hparent]
      rfl
    refine ⟨refusesIff_of_error hrun hr, ?_, ?_⟩
    · rw [hrun, Builder.feed_of_opening _ hr]
      exact ⟨rfl, _, rfl, rfl⟩
    · rw [afterwards, hrun]
      exact hd
  · obtain ⟨d', hd', hsided, hbuilder, hnotices⟩ := push_handle_follows hd hr
    have hrun : (feed r).run d = .ok (r.payload == .closing) d' := by
      rw [feed_eq_of_ne_opening hr, EStateM.run_bind, hd']
      rfl
    refine ⟨refusesIff_of_ok hrun hr, ?_, ?_⟩
    · rw [hrun, Builder.feed_of_ne_opening _ hr]
      exact ⟨hbuilder.symm, rfl, hnotices⟩
    · rw [afterwards, hrun]
      exact hsided

theorem takes_begin (hd : d.Sided) (r : Record) (line : String) :
    Takes (begin r line) d (d.builder.begin r line) (r.family ≠ .opening) := by
  by_cases hr : r.family = .opening
  · obtain ⟨parent, hparent⟩ := Record.exists_payload_of_opening hr
    have hrun : (begin r line).run d = .ok () { d with transaction := (d.builder.opened r parent).transaction } := by
      simp [begin, hparent]
    refine ⟨refusesIff_of_ok hrun (not_not_intro hr), ?_, ?_⟩
    · rw [hrun, Builder.begin_of_opening _ hparent]
      exact ⟨rfl, rfl, (List.append_nil _).symm⟩
    · rw [afterwards, hrun]
      exact hd
  · have hrun : (begin r line).run d = .error (.refused (.beginExpected r.tag line)) d := by
      obtain ⟨tag, value, text, payload⟩ := r
      cases payload with
      | opening parent => exact absurd rfl hr
      | _ => rfl
    refine ⟨refusesIff_of_error hrun hr, ?_, ?_⟩
    · rw [hrun, Builder.begin_of_ne_opening _ hr]
      exact ⟨rfl, _, rfl, rfl⟩
    · rw [afterwards, hrun]
      exact hd

/-! ## Reachable drafts -/

theorem sided_of_reached (h : Reached t d) : d.Sided := by
  induction h with
  | start => exact sided_start t
  | begin _ hr line ih => exact (takes_begin ih _ line).sided
  | feed _ hr ih => exact (takes_feed ih _).sided

/-- What a reachable builder keeps is what some reachable draft keeps of it, and the other way round. -/
theorem reached_builder_iff {b : Builder} : Builder.Reached t b ↔ ∃ d, Reached t d ∧ d.builder = b := by
  constructor
  · intro h
    induction h with
    | start => exact ⟨_, .start, rfl⟩
    | begin _ hr line ih =>
      obtain ⟨d, hd, rfl⟩ := ih
      exact ⟨_, hd.begin hr line, builder_afterwards (takes_begin (sided_of_reached hd) _ line).agrees⟩
    | feed _ hr ih =>
      obtain ⟨d, hd, rfl⟩ := ih
      exact ⟨_, hd.feed hr, builder_afterwards (takes_feed (sided_of_reached hd) _).agrees⟩
  · rintro ⟨d, hd, rfl⟩
    induction hd with
    | start => exact .start
    | begin hd hr line ih =>
      rw [builder_afterwards (takes_begin (sided_of_reached hd) _ line).agrees]
      exact ih.begin hr line
    | feed hd hr ih =>
      rw [builder_afterwards (takes_feed (sided_of_reached hd) _).agrees]
      exact ih.feed hr

/-- From whatever `begin` and `feed` lead to, a record is refused where it has no place and nowhere else, and before
anything is changed: not the transaction, the client phase, the last header or the buffer. -/
theorem refused_untouched (t : Transaction) :
    (∀ b, Builder.Reached t b ↔ ∃ d, Reached t d ∧ d.builder = b) ∧
      ∀ d, Reached t d → ∀ (r : Record) (line : String),
        (RefusesIff (feed r) d (r.family = .opening) ∧ Agrees d (d.builder.feed r) ((feed r).run d)) ∧
          (RefusesIff (begin r line) d (r.family ≠ .opening) ∧
            Agrees d (d.builder.begin r line) ((begin r line).run d)) := by
  refine ⟨fun _ => reached_builder_iff, ?_⟩
  intro d hd r line
  have hfeed := takes_feed (sided_of_reached hd) r
  have hbegin := takes_begin (sided_of_reached hd) r line
  exact ⟨⟨hfeed.refuses, hfeed.agrees⟩, hbegin.refuses, hbegin.agrees⟩

def openingRecord : Record :=
  ⟨"Begin", "req 1 rxreq", "--  Begin req 1 rxreq", .opening ⟨"req", 1, "rxreq", 0⟩⟩

def bufferedRecord : Record :=
  ⟨"ReqHeader", "Via: a", "--  ReqHeader Via: a", .header ⟨"Via", "a", .request⟩⟩

def objectRecord : Record :=
  ⟨"ObjHeader", "Via: b", "--  ObjHeader Via: b", .header ⟨"Via", "b", .object⟩⟩

def callRecord : Record := ⟨"VCL_call", "RECV", "--  VCL_call RECV", .vclCall⟩

/-- A request that was opened, with a managed header in the buffer and a header of an object after it. -/
def bufferingDraft : Draft :=
  afterwards (feed objectRecord) (afterwards (feed bufferedRecord)
    (afterwards (begin openingRecord openingRecord.line) (start (.started 4 .request 2 "**  << Request  >> 4"))))

theorem refused_untouched_buffering :
    (bufferingDraft.lastHeader, bufferingDraft.buffer.size) = (some ⟨"Via", "a", .request⟩, 1) ∧
      RefusesIff (feed openingRecord) bufferingDraft True ∧
      RefusesIff (begin objectRecord "") bufferingDraft True ∧
      RefusesIff (feed callRecord) bufferingDraft False := by
  have hopening : openingRecord.FromLine := ⟨openingRecord.line, by decide +kernel⟩
  have hbuffered : bufferedRecord.FromLine := ⟨bufferedRecord.line, by decide +kernel⟩
  have hobject : objectRecord.FromLine := ⟨objectRecord.line, by decide +kernel⟩
  have hreached : Reached (.started 4 .request 2 "**  << Request  >> 4") bufferingDraft :=
    ((Reached.start.begin hopening openingRecord.line).feed hbuffered).feed hobject
  have hsteps := (refused_untouched (.started 4 .request 2 "**  << Request  >> 4")).2 bufferingDraft hreached
  have hfeed := (hsteps openingRecord "").1.1
  have hbegin := (hsteps objectRecord "").2.1
  have hcall := (hsteps callRecord "").1.1
  rw [eq_true (show openingRecord.family = .opening from rfl)] at hfeed
  rw [eq_true (show objectRecord.family ≠ .opening by decide)] at hbegin
  rw [eq_false (show ¬callRecord.family = .opening by decide)] at hcall
  exact ⟨by decide +kernel, hfeed, hbegin, hcall⟩

end ProxyLog.Draft
