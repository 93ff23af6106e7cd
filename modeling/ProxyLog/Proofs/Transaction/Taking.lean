import ProxyLog.Proofs.Transaction.Buffer

/-!
# Records taken and refused

A builder refuses a record that opens a transaction where none is to be opened, and any other one where
one is. What the start line says of a transaction stays as it is while records are taken in.

* `Builder.begin_of_ne_opening`, `Builder.feed_of_opening`: the two refusals.
* `Transaction.Apart part`: the part is apart from headers, children and records, like
  `Transaction.heading`, what the start line tells, and `Transaction.opening`, what the opening record does.
* `part_accept`: what is apart from the headers alone changes with the links and the row of records only.
* `apart_accept`, `apart_of_run`: no further record changes a part that is apart from all three.
* `heading_after`, `records_after`: the heading and the records of a transaction after some records.
-/

set_option autoImplicit false

namespace ProxyLog

/-! ## Records that open and close -/

theorem Record.payload_of_closing {r : Record} (h : r.family = .closing) : r.payload = .closing := by
  obtain ⟨tag, value, line, payload⟩ := r
  cases payload <;> first | rfl | cases h

theorem Record.exists_payload_of_opening {r : Record} (h : r.family = .opening) :
    ∃ parent, r.payload = .opening parent := by
  obtain ⟨tag, value, line, payload⟩ := r
  cases payload <;> first | exact ⟨_, rfl⟩ | cases h

theorem Record.closing_beq_iff {r : Record} : (r.payload == .closing) = true ↔ r.family = .closing := by
  rw [beq_iff_eq]
  constructor
  · intro h
    rw [Record.family, h]
    rfl
  · exact Record.payload_of_closing

theorem Builder.begin_of_ne_opening (b : Builder) {r : Record} (h : r.family ≠ .opening) (line : String) :
    b.begin r line = ⟨b, .fail (.malformed (.beginExpected r.tag line))⟩ := by
  unfold begin
  split
  · rename_i parent hp
    exact absurd (by rw [Record.family, hp]; rfl) h
  · rfl

theorem Builder.feed_of_opening (b : Builder) {r : Record} (h : r.family = .opening) :
    b.feed r = ⟨b, .fail (.malformed (.beginRepeated b.transaction.vxid r.line))⟩ := by
  obtain ⟨parent, hp⟩ := Record.exists_payload_of_opening h
  simp [feed, hp]

/-! ## What stays of a transaction -/

/-- The part is apart from the headers, the children and the records of a transaction. -/
structure Transaction.Apart {α : Type} (part : Transaction → α) : Prop where
  headers : ∀ t side f, part (t.mapHeaders side f) = part t
  children : ∀ t children, part { t with children } = part t
  records : ∀ t records, part { t with records } = part t

structure Heading where
  vxid : Int
  kind : TransactionKind
  level : Int
  startLine : String
  deriving DecidableEq, Repr

def Transaction.heading (t : Transaction) : Heading := ⟨t.vxid, t.kind, t.level, t.startLine⟩

theorem Transaction.apart_heading : Apart heading where
  headers := fun _ side _ => by cases side <;> rfl
  children := fun _ _ => rfl
  records := fun _ _ => rfl

/-- What the opening record tells of a transaction, with its id. -/
structure Opening where
  vxid : Int
  txid : String
  reason : String
  parent : Option Int
  esiLevel : Int
  deriving DecidableEq, Repr

def Transaction.opening (t : Transaction) : Opening := ⟨t.vxid, t.txid, t.reason, t.parent, t.esiLevel⟩

theorem Transaction.apart_opening : Apart opening where
  headers := fun _ side _ => by cases side <;> rfl
  children := fun _ _ => rfl
  records := fun _ _ => rfl

namespace Builder

section Apart
variable {α : Type} {part : Transaction → α}

section Headers
variable (h : ∀ t side f, part (Transaction.mapHeaders t side f) = part t)
include h

theorem part_mapHeaders (b : Builder) (side : Side) (f : HeaderSet → HeaderSet) :
    part (b.mapHeaders side f).transaction = part b.transaction :=
  h b.transaction side f

theorem part_mergeBuffer (b : Builder) (side : Side) : part (b.mergeBuffer side).transaction = part b.transaction :=
  part_mapHeaders h b side (·.merge b.buffer)

theorem part_onCall (b : Builder) : part b.onCall.transaction = part b.transaction := by
  unfold onCall
  split
  · split
    · next side _ => exact part_mergeBuffer h b side
    · rfl
  · rfl

theorem part_onHeader (b : Builder) (line : HeaderLine) :
    part (b.onHeader line).transaction = part b.transaction := by
  unfold onHeader
  split
  · rfl
  · simp only
    split
    · exact part_mapHeaders h _ _ _
    · split
      · rfl
      · exact part_mapHeaders h _ _ _

theorem part_onUnset (b : Builder) (line : HeaderLine) : part (b.onUnset line).transaction = part b.transaction := by
  unfold onUnset
  split
  · rfl
  · next side _ => exact part_mapHeaders h b side (·.delete line.name true)

theorem part_accept (b : Builder) (r : Record) :
    part (b.accept r).transaction = part (match r.payload with
      | .link child => ((b.push r).onLink child).transaction
      | _ => (b.push r).transaction) := by
  unfold accept
  cases r.payload with
  | vclCall => exact part_onCall h _
  | header line => exact part_onHeader h _ line
  | unset line => exact part_onUnset h _ line
  | closing =>
    simp only [onClosing_eq]
    exact part_mergeBuffer h _ _
  | _ => rfl

end Headers

theorem apart_onLink (h : Transaction.Apart part) (b : Builder) (child : Edge) :
    part (b.onLink child).transaction = part b.transaction := by
  unfold onLink
  split
  · rfl
  · exact h.children _ _

/-- A record that is taken in changes headers, children and records only. -/
theorem apart_accept (h : Transaction.Apart part) (b : Builder) (r : Record) :
    part (b.accept r).transaction = part b.transaction := by
  have hpush : part (b.push r).transaction = part b.transaction := h.records _ _
  rw [part_accept h.headers]
  split
  · rw [apart_onLink h, hpush]
  · exact hpush

/-- What is apart from headers, children and records is as the opening record left it. -/
theorem apart_of_run (h : Transaction.Apart part) {t : Transaction} {rs : List Record} {b : Builder}
    (hrun : Run t rs b) :
    ∃ first rest parent, rs = first :: rest ∧ first.payload = .opening parent ∧
      part b.transaction = part ((start t).opened first parent).transaction := by
  induction hrun with
  | opened hr hp => exact ⟨_, [], _, rfl, hp, rfl⟩
  | accept hb hr hp ih =>
    obtain ⟨first, rest, parent, rfl, hopening, hpart⟩ := ih
    exact ⟨first, rest ++ [_], parent, rfl, hopening, (apart_accept h _ _).trans hpart⟩

end Apart

variable (b : Builder)

theorem heading_take (r : Record) : (b.take r).transaction.heading = b.transaction.heading := by
  unfold take
  split
  · rfl
  · exact apart_accept Transaction.apart_heading b r

theorem heading_foldl_take (rs : List Record) :
    (rs.foldl take b).transaction.heading = b.transaction.heading := by
  induction rs generalizing b with
  | nil => rfl
  | cons r rs ih => rw [List.foldl_cons, ih, heading_take]

theorem heading_after (t : Transaction) (rs : List Record) :
    (after t rs).transaction.heading = t.heading :=
  heading_foldl_take (start t) rs

theorem records_take (r : Record) : (b.take r).transaction.records = b.transaction.records ++ [r] := by
  unfold take
  split
  · rfl
  · exact records_accept b r

theorem records_after (t : Transaction) (rs : List Record) :
    (after t rs).transaction.records = t.records ++ rs := by
  induction rs using List.reverseRecOn with
  | nil => exact (List.append_nil _).symm
  | append_singleton rs r ih => rw [after_snoc, records_take, ih, List.append_assoc]

end Builder

end ProxyLog
