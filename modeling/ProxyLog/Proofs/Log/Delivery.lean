import ProxyLog.Log.Edit
import ProxyLog.Log.Reading
import ProxyLog.Proofs.Log.Line
import ProxyLog.Proofs.Log.StartLine
import ProxyLog.Proofs.Transaction.Taking

/-!
# What lines deliver

Which transactions the reader finishes, and where it stands afterwards, depends on the lines and on its
phase alone: the transactions read before have no say in it.

* `Delivery`: the transactions that lines finish, in order, and the phase after them.
* `Phase.deliver p line`: what one trimmed line delivers in a phase; `Phase.deliverAll` is the same for
  many lines.
* `step_eq_deliver`, `readAll_eq_deliverAll`: the reader adds to its set what the lines deliver.
* `readLines_eq_deliverAll`: the same for a whole log.
* `deliverAll_append`: lines in two parts deliver one part after the other.
-/

set_option autoImplicit false

namespace ProxyLog

structure Delivery where
  finished : List Transaction
  phase : Phase

namespace Delivery

def append (front back : Delivery) : Delivery := ⟨front.finished ++ back.finished, back.phase⟩

@[simp] theorem nil_append (p : Phase) (back : Delivery) : append ⟨[], p⟩ back = back := rfl

end Delivery

namespace Phase

/-- What a trimmed line delivers while no transaction is open. -/
def deliverBetween (line : String) : Except Failure Delivery :=
  if isStartLine line then (Transaction.ofStartLine line).map fun t => ⟨[], .started t⟩
  else .ok ⟨[], .between⟩

/-- What the trimmed line after a start line delivers. -/
def deliverFirst (t : Transaction) (line : String) : Except Failure Delivery :=
  if line = "" then .error (.malformed (.beginBlank t.startLine))
  else (Record.ofLine line).result.bind fun r =>
    ((Builder.start t).begin r line).outcome.result.map fun _ =>
      ⟨[], .inside ((Builder.start t).begin r line).builder⟩

/-- What a further trimmed line of a transaction delivers. -/
def deliverBody (b : Builder) (line : String) : Except Failure Delivery :=
  if hasTwoFields line then
    (Record.ofLine line).result.bind fun r =>
      (b.feed r).outcome.result.map fun closes =>
        if closes then ⟨[(b.feed r).builder.transaction], .between⟩
        else ⟨[], .inside (b.feed r).builder⟩
  else .ok ⟨[], .inside b⟩

def deliver (p : Phase) (line : String) : Except Failure Delivery :=
  match p with
  | between => deliverBetween line
  | started t => deliverFirst t line
  | inside b => deliverBody b line

def deliverAll (p : Phase) : List String → Except Failure Delivery
  | [] => .ok ⟨[], p⟩
  | line :: lines => (p.deliver line).bind fun d => (d.phase.deliverAll lines).map d.append

@[simp] theorem deliverAll_nil (p : Phase) : p.deliverAll [] = .ok ⟨[], p⟩ := rfl

theorem deliverAll_cons (p : Phase) (line : String) (lines : List String) :
    p.deliverAll (line :: lines) = (p.deliver line).bind fun d => (d.phase.deliverAll lines).map d.append :=
  rfl

theorem deliverAll_cons_of_ok {p : Phase} {line : String} {d : Delivery} (h : p.deliver line = .ok d)
    (lines : List String) : p.deliverAll (line :: lines) = (d.phase.deliverAll lines).map d.append := by
  rw [deliverAll_cons, h]
  rfl

theorem deliverAll_cons_of_error {p : Phase} {line : String} {e : Failure} (h : p.deliver line = .error e)
    (lines : List String) : p.deliverAll (line :: lines) = .error e := by
  rw [deliverAll_cons, h]
  rfl

theorem deliverAll_cons_eq_ok {p : Phase} {line : String} {lines : List String} {d : Delivery}
    (h : p.deliverAll (line :: lines) = .ok d) :
    ∃ first rest, p.deliver line = .ok first ∧ first.phase.deliverAll lines = .ok rest ∧
      d = first.append rest := by
  cases hfirst : p.deliver line with
  | error e =>
    rw [deliverAll_cons_of_error hfirst] at h
    cases h
  | ok first =>
    rw [deliverAll_cons_of_ok hfirst] at h
    obtain ⟨rest, hrest, rfl⟩ := exists_of_map_eq_ok h
    exact ⟨first, rest, rfl, hrest, rfl⟩

theorem deliverAll_append (p : Phase) (front back : List String) :
    p.deliverAll (front ++ back) =
      (p.deliverAll front).bind fun d => (d.phase.deliverAll back).map d.append := by
  induction front generalizing p with
  | nil =>
    simp only [List.nil_append, deliverAll_nil, Except.bind]
    cases p.deliverAll back <;> rfl
  | cons line front ih =>
    cases h : p.deliver line with
    | error e => simp [deliverAll_cons_of_error h, Except.bind]
    | ok d =>
      rw [List.cons_append, deliverAll_cons_of_ok h, deliverAll_cons_of_ok h, ih]
      cases hfront : d.phase.deliverAll front with
      | error e => rfl
      | ok d' =>
        cases hback : d'.phase.deliverAll back with
        | error e => simp [Except.bind, Except.map, Delivery.append, hback]
        | ok d'' => simp [Except.bind, Except.map, Delivery.append, hback, List.append_assoc]

theorem deliverAll_append_of_ok {p : Phase} {front : List String} {d : Delivery}
    (h : p.deliverAll front = .ok d) (back : List String) :
    p.deliverAll (front ++ back) = (d.phase.deliverAll back).map d.append := by
  rw [deliverAll_append, h]
  rfl

theorem deliverAll_append_of_error {p : Phase} {front : List String} {e : Failure}
    (h : p.deliverAll front = .error e) (back : List String) : p.deliverAll (front ++ back) = .error e := by
  rw [deliverAll_append, h]
  rfl

end Phase

/-! ## One line -/

namespace Phase

variable {t : Transaction} {b : Builder} {line : String} {r : Record}

theorem deliver_between : between.deliver line = deliverBetween line := rfl

theorem deliver_started : (started t).deliver line = deliverFirst t line := rfl

theorem deliver_inside : (inside b).deliver line = deliverBody b line := rfl

theorem deliver_between_of_not_start (h : isStartLine line = false) :
    between.deliver line = .ok ⟨[], .between⟩ := by
  simp [deliver_between, deliverBetween, h]

theorem deliver_between_of_starts (h : Starts line t) : between.deliver line = .ok ⟨[], .started t⟩ := by
  simp [deliver_between, deliverBetween, h.isStart, h.names, Except.map]

/-- A line between transactions is noise, or a transaction starts there. -/
theorem deliver_between_cases {d : Delivery} (h : between.deliver line = .ok d) :
    (isStartLine line = false ∧ d = ⟨[], .between⟩) ∨ ∃ t, Starts line t ∧ d = ⟨[], .started t⟩ := by
  rw [deliver_between, deliverBetween] at h
  split at h
  · rename_i hstart
    obtain ⟨t, ht, rfl⟩ := exists_of_map_eq_ok h
    exact Or.inr ⟨t, ⟨hstart, ht⟩, rfl⟩
  · rename_i hstart
    cases h
    exact Or.inl ⟨by simpa using hstart, rfl⟩

theorem deliver_started_of_opening (h : Reads line r) (hr : r.family = .opening) :
    (started t).deliver line = .ok ⟨[], .inside ((Builder.start t).take r)⟩ := by
  obtain ⟨parent, hp⟩ := Record.exists_payload_of_opening hr
  have hline : line ≠ "" := by
    rintro rfl
    have hfields := h.hasTwoFields
    rw [hasTwoFields_empty] at hfields
    cases hfields
  have hread : (Record.ofLine line).result = .ok r := h
  simp only [deliver_started, deliverFirst, if_neg hline, hread, Builder.begin_of_opening _ hp, Except.bind]
  rw [Builder.take, hp]
  rfl

/-- The line after a start line opens the transaction, or nothing is read. -/
theorem deliver_started_cases {d : Delivery} (h : (started t).deliver line = .ok d) :
    ∃ r, Reads line r ∧ r.family = .opening ∧ d = ⟨[], .inside ((Builder.start t).take r)⟩ := by
  rw [deliver_started, deliverFirst] at h
  split at h
  · cases h
  · cases hr : (Record.ofLine line).result with
    | error e =>
      rw [hr] at h
      cases h
    | ok r =>
      rw [hr] at h
      by_cases hopening : r.family = .opening
      · obtain ⟨parent, hp⟩ := Record.exists_payload_of_opening hopening
        simp only [Except.bind, Builder.begin_of_opening _ hp] at h
        cases h
        exact ⟨r, hr, hopening, by rw [Builder.take, hp]⟩
      · simp only [Except.bind, Builder.begin_of_ne_opening _ hopening] at h
        cases h

theorem deliver_inside_of_short (h : hasTwoFields line = false) :
    (inside b).deliver line = .ok ⟨[], .inside b⟩ := by
  simp [deliver_inside, deliverBody, h]

theorem deliver_inside_of_reads (h : Reads line r) (hr : r.family ≠ .opening) :
    (inside b).deliver line =
      .ok (if r.family = .closing then ⟨[(b.take r).transaction], .between⟩ else ⟨[], .inside (b.take r)⟩) := by
  have hread : (Record.ofLine line).result = .ok r := h
  simp only [deliver_inside, deliverBody, h.hasTwoFields, if_pos, hread, Builder.feed_of_ne_opening b hr,
    Builder.take_of_ne_opening hr, Record.closing_beq_iff, Except.bind, Except.map]

/-- A line of an open transaction is too short, or it is a further record, of which one kind closes it. -/
theorem deliver_inside_cases {d : Delivery} (h : (inside b).deliver line = .ok d) :
    (hasTwoFields line = false ∧ d = ⟨[], .inside b⟩) ∨
      ∃ r, Reads line r ∧ r.family ≠ .opening ∧
        d = if r.family = .closing then ⟨[(b.take r).transaction], .between⟩ else ⟨[], .inside (b.take r)⟩ := by
  cases hfields : hasTwoFields line with
  | false =>
    rw [deliver_inside_of_short hfields] at h
    cases h
    exact Or.inl ⟨rfl, rfl⟩
  | true =>
    right
    cases hr : (Record.ofLine line).result with
    | error e =>
      rw [deliver_inside, deliverBody, if_pos hfields, hr] at h
      cases h
    | ok r =>
      by_cases hopening : r.family = .opening
      · rw [deliver_inside, deliverBody, if_pos hfields, hr] at h
        simp only [Except.bind, Builder.feed_of_opening _ hopening] at h
        cases h
      · rw [deliver_inside_of_reads hr hopening] at h
        exact ⟨r, hr, hopening, (Except.ok.inj h).symm⟩

theorem isStartLine_of_started {p : Phase} {d : Delivery} (h : p.deliver line = .ok d)
    (hd : d.phase = .started t) : isStartLine line = true := by
  cases p with
  | between =>
    rcases deliver_between_cases h with ⟨-, rfl⟩ | ⟨u, hu, -⟩
    · cases hd
    · exact hu.isStart
  | started u =>
    obtain ⟨r, -, -, rfl⟩ := deliver_started_cases h
    cases hd
  | inside b =>
    rcases deliver_inside_cases h with ⟨-, rfl⟩ | ⟨r, -, -, rfl⟩
    · cases hd
    · split at hd <;> cases hd

/-- Behind a start line a blank line matters, and nowhere else. -/
theorem deliver_empty {p : Phase} (h : ∀ t, p ≠ .started t) : p.deliver "" = .ok ⟨[], p⟩ := by
  cases p with
  | between => exact deliver_between_of_not_start (by decide)
  | started t => exact absurd rfl (h t)
  | inside b => exact deliver_inside_of_short hasTwoFields_empty

theorem deliverAll_empty_cons {p : Phase} (h : ∀ t, p ≠ .started t) (lines : List String) :
    p.deliverAll ("" :: lines) = p.deliverAll lines := by
  rw [deliverAll_cons_of_ok (deliver_empty h)]
  cases p.deliverAll lines <;> rfl

end Phase

/-! ## The reader -/

namespace Reading

/-- Takes in what lines deliver. -/
def receive (s : Reading) (d : Delivery) : Reading := ⟨s.set.addAll d.finished, d.phase⟩

theorem receive_append (s : Reading) (front back : Delivery) :
    s.receive (front.append back) = (s.receive front).receive back := by
  simp [receive, Delivery.append, TransactionSet.addAll]

theorem betweenLine_eq_deliver (s : Reading) (line : String) :
    (s.betweenLine line).result = (Phase.deliverBetween line).map s.receive := by
  unfold betweenLine Phase.deliverBetween
  split
  · rw [Outcome.bind_result]
    cases h : Transaction.ofStartLine line <;> rfl
  · rfl

theorem firstLine_eq_deliver (s : Reading) (t : Transaction) (line : String) :
    (s.firstLine t line).result = (Phase.deliverFirst t line).map s.receive := by
  unfold firstLine Phase.deliverFirst
  split
  · rfl
  · rw [Outcome.bind_result]
    cases hr : (Record.ofLine line).result with
    | error e => rfl
    | ok r =>
      simp only [Except.bind, Outcome.bind_result]
      cases ((Builder.start t).begin r line).outcome.result <;> rfl

theorem bodyLine_eq_deliver (s : Reading) (b : Builder) (line : String) :
    (s.bodyLine b line).result = (Phase.deliverBody b line).map s.receive := by
  unfold bodyLine Phase.deliverBody
  split
  · rw [Outcome.bind_result]
    cases hr : (Record.ofLine line).result with
    | error e => rfl
    | ok r =>
      simp only [Except.bind, Outcome.bind_result]
      cases (b.feed r).outcome.result with
      | error e => rfl
      | ok closes => cases closes <;> rfl
  · rfl

theorem step_eq_deliver (s : Reading) (raw : String) :
    (s.step raw).result = (s.phase.deliver (Text.strip raw)).map s.receive := by
  unfold step
  cases s.phase with
  | between => exact betweenLine_eq_deliver s _
  | started t => exact firstLine_eq_deliver s t _
  | inside b => exact bodyLine_eq_deliver s b _

/-- Of what was read before, only the result counts. -/
theorem readAll_result (s : Outcome Failure Reading) (lines : List String) :
    (readAll s lines).result = s.result.bind fun s => (readAll (pure s) lines).result := by
  cases hs : s.result with
  | error e => exact readAll_of_error hs lines
  | ok s' =>
    induction lines generalizing s s' with
    | nil => exact hs
    | cons line lines ih =>
      have hstep : (s >>= (·.step line)).result = (pure s' >>= (·.step line) : Outcome Failure Reading).result := by
        rw [Outcome.bind_of_ok hs]
        rfl
      simp only [readAll_cons, Except.bind] at ih ⊢
      cases hnext : (s >>= (·.step line)).result with
      | error e =>
        rw [readAll_of_error hnext, readAll_of_error (hstep.symm.trans hnext)]
      | ok s'' => rw [ih _ _ hnext, ih _ _ (hstep.symm.trans hnext)]

theorem readAll_eq_deliverAll (s : Reading) (lines : List String) :
    (readAll (pure s) lines).result = (s.phase.deliverAll (lines.map Text.strip)).map s.receive := by
  induction lines generalizing s with
  | nil => simp [receive, TransactionSet.addAll, Except.map]
  | cons line lines ih =>
    have hstep : (pure s >>= (·.step line) : Outcome Failure Reading).result =
        (s.phase.deliver (Text.strip line)).map s.receive := by
      rw [Outcome.bind_result]
      exact step_eq_deliver s line
    rw [readAll_cons, readAll_result, hstep, List.map_cons]
    cases hd : s.phase.deliver (Text.strip line) with
    | error e => rw [Phase.deliverAll_cons_of_error hd]; rfl
    | ok d =>
      have hrest : (readAll (pure (s.receive d)) lines).result =
          (d.phase.deliverAll (lines.map Text.strip)).map (s.receive d).receive := ih (s.receive d)
      rw [Phase.deliverAll_cons_of_ok hd]
      refine hrest.trans ?_
      cases d.phase.deliverAll (lines.map Text.strip) with
      | error e => rfl
      | ok d' => exact congrArg Except.ok (receive_append s d d').symm

end Reading

/-! ## Whole logs -/

/-- The set that a log ends with, if it ends between two transactions. -/
def Delivery.close (maxDepth : Int) (d : Delivery) : Except Failure TransactionSet :=
  ((Reading.start maxDepth).receive d).finish

theorem readLines_eq_deliverAll (maxDepth : Int) (lines : List String) :
    (readLines maxDepth lines).result =
      (Phase.between.deliverAll (lines.map Text.strip)).bind (·.close maxDepth) := by
  have h := Reading.readAll_eq_deliverAll (Reading.start maxDepth) lines
  rw [readLines, Outcome.bind_result, h]
  cases hd : (Reading.start maxDepth).phase.deliverAll (lines.map Text.strip) with
  | error e => rw [show Phase.between.deliverAll (lines.map Text.strip) = .error e from hd]; rfl
  | ok d => rw [show Phase.between.deliverAll (lines.map Text.strip) = .ok d from hd]; rfl

/-- A log is read to its end just when its lines leave no transaction open. -/
theorem readLines_eq_ok_iff {maxDepth : Int} {lines : List String} {ts : TransactionSet} :
    (readLines maxDepth lines).result = .ok ts ↔
      ∃ txs, Phase.between.deliverAll (lines.map Text.strip) = .ok ⟨txs, .between⟩ ∧
        ts = .ofList maxDepth txs := by
  rw [readLines_eq_deliverAll]
  constructor
  · intro h
    cases hd : Phase.between.deliverAll (lines.map Text.strip) with
    | error e =>
      rw [hd] at h
      cases h
    | ok d =>
      rw [hd] at h
      obtain ⟨txs, phase⟩ := d
      cases phase with
      | between =>
        cases h
        exact ⟨txs, rfl, rfl⟩
      | started t => cases h
      | inside b => cases h
  · rintro ⟨txs, hd, rfl⟩
    rw [hd]
    rfl

end ProxyLog
