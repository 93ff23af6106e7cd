import ProxyLog.Header.Account
import ProxyLog.Transaction.Builder

/-!
# Runs of a builder

* `Builder.Reached t b`: `begin` and `feed` lead from the start of `t` to `b`, whether or not they
  took in what they were given.
* `Builder.Run t rs b`: `b` has taken in the records `rs`, of which the first opens the transaction.
* `Transaction.BuiltFrom t rs t'`: a run over `rs` that ends with a closing record makes `t'` of `t`.
* `clientRecords rs`: the records of the client phases, which last from the start, and from each
  status line, to the next call.
-/

set_option autoImplicit false

namespace ProxyLog

namespace Builder

/-! ## States -/

/-- The builders that `begin` and `feed` lead to. -/
inductive Reached (t : Transaction) : Builder → Prop
  | start : Reached t (.start t)
  | begin {b : Builder} (h : Reached t b) {r : Record} (hr : r.FromLine) (line : String) :
      Reached t (b.begin r line).builder
  | feed {b : Builder} (h : Reached t b) {r : Record} (hr : r.FromLine) : Reached t (b.feed r).builder

/-- The builder after an opening record and further ones. -/
inductive Run (t : Transaction) : List Record → Builder → Prop
  | opened {r : Record} {parent : Edge} (hr : r.FromLine) (h : r.payload = .opening parent) :
      Run t [r] ((start t).opened r parent)
  | accept {rs : List Record} {b : Builder} (hb : Run t rs b) {r : Record} (hr : r.FromLine)
      (h : r.family ≠ .opening) : Run t (rs ++ [r]) (b.accept r)

/-! ## Steps -/

theorem begin_of_opening (b : Builder) {r : Record} {parent : Edge} (h : r.payload = .opening parent)
    (line : String) : b.begin r line = ⟨b.opened r parent, pure ()⟩ := by
  simp [begin, h]

theorem feed_of_ne_opening (b : Builder) {r : Record} (h : r.family ≠ .opening) :
    b.feed r = ⟨b.accept r, ⟨b.remarks r, .ok (r.payload == .closing)⟩⟩ := by
  unfold feed
  split
  · rename_i parent hp
    exact absurd (by simp [Record.family, hp, Payload.family]) h
  · rfl

/-- What a run takes in it keeps: its records are those of the transaction, behind none of before. -/
theorem records_accept (b : Builder) (r : Record) :
    (b.accept r).transaction.records = b.transaction.records ++ [r] := by
  have hside (c : Builder) (side : Side) (f : HeaderSet → HeaderSet) :
      (c.mapHeaders side f).transaction.records = c.transaction.records := by cases side <;> rfl
  have hmerge (c : Builder) (side : Side) :
      (c.mergeBuffer side).transaction.records = c.transaction.records := hside c side _
  unfold accept
  simp only
  split
  · unfold onCall
    split
    · split
      · exact hmerge _ _
      · rfl
    · rfl
  · rfl
  · unfold onLink
    split <;> rfl
  · unfold onHeader
    split
    · rfl
    · simp only
      split
      · exact hside _ _ _
      · split
        · rfl
        · exact hside _ _ _
  · unfold onUnset
    split
    · rfl
    · exact hside _ _ _
  · unfold onClosing
    split
    · rfl
    · exact hmerge _ _
  · rfl

end Builder

/-- A run that ends with a closing record makes a transaction of a started one. -/
def Transaction.BuiltFrom (t : Transaction) (rs : List Record) (built : Transaction) : Prop :=
  ∃ b, Builder.Run t rs b ∧ b.transaction = built ∧ rs.getLast?.map (·.payload) = some .closing

/-! ## Client phases -/

/-- The records of the client phases, where the first one may already lie in such a phase. -/
def clientRecordsFrom (clientPhase : Bool) : List Record → List Record
  | [] => []
  | r :: rs =>
    match r.payload with
    | .vclCall => clientRecordsFrom false rs
    | .status _ => clientRecordsFrom true rs
    | _ => (if clientPhase then [r] else []) ++ clientRecordsFrom clientPhase rs

/-- The records of the client phases. -/
def clientRecords (rs : List Record) : List Record := clientRecordsFrom true rs

end ProxyLog
