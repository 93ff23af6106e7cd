import ProxyLog.Proofs.Log.Delivery

/-!
# Where reading stops

The reader stops at the first line that it cannot read, or at the end of a log that leaves a transaction open.

* `Arrives lines p line`: the reader comes to a trimmed line of the log in the phase `p`.
* `deliver_between_eq_error_iff`, `deliver_started_eq_error_iff`, `deliver_inside_eq_error_iff`: why a line cannot be
  read, phase by phase; `ofStartLine_eq_error_iff` is the same for the fields of a start line.
* `deliverAll_eq_error_iff`, `readLines_eq_error_iff`: many lines, and a whole log.
* `Phase.startLine?`, `Arrives.startLine?_mem`: an open transaction was started by a line of the log.
-/

set_option autoImplicit false

namespace ProxyLog

open Text

/-! ## One line -/

theorem ofStartLine_eq_error_iff {line marker bracket kind closing vxid : String} {e : Failure}
    (hwords : words line = [marker, bracket, kind, closing, vxid]) :
    Transaction.ofStartLine line = .error e ↔
      (TransactionKind.ofName? kind = none ∧ e = .malformed (.unknownKind kind line)) ∨
      (∃ k fault, TransactionKind.ofName? kind = some k ∧ readVxid vxid = .error fault ∧
        e = .malformed (.badStartVxid fault line)) ∨
      ∃ k n, TransactionKind.ofName? kind = some k ∧ readVxid vxid = .ok n ∧ readLevel marker = .error e := by
  unfold Transaction.ofStartLine
  simp only [hwords]
  cases hkind : TransactionKind.ofName? kind with
  | none => simp [throw, throwThe, MonadExceptOf.throw, bind, Except.bind, eq_comm]
  | some k =>
    cases hvxid : readVxid vxid with
    | error fault => simp [bind, Except.bind, Except.mapError, pure, Except.pure, eq_comm]
    | ok n =>
      cases hlevel : readLevel marker <;> simp [bind, Except.bind, pure, Except.pure]

namespace Phase
variable {t : Transaction} {b : Builder} {line : String} {e : Failure}

theorem deliver_between_eq_error_iff :
    between.deliver line = .error e ↔ isStartLine line = true ∧ Transaction.ofStartLine line = .error e := by
  rw [deliver_between, deliverBetween]
  cases hstart : isStartLine line with
  | false => simp
  | true => cases hline : Transaction.ofStartLine line <;> simp [Except.map]

theorem deliver_started_eq_error_iff :
    (started t).deliver line = .error e ↔
      (line = "" ∧ e = .malformed (.beginBlank t.startLine)) ∨
      (line ≠ "" ∧ (Record.ofLine line).result = .error e) ∨
      ∃ r, Reads line r ∧ r.family ≠ .opening ∧ e = .malformed (.beginExpected r.tag line) := by
  have hempty : ∀ r, ¬ Reads "" r := by
    intro r hr
    have hfields := hr.hasTwoFields
    rw [hasTwoFields_empty] at hfields
    cases hfields
  rw [deliver_started, deliverFirst]
  by_cases hline : line = ""
  · subst hline
    simp [hempty, eq_comm]
  · cases hr : (Record.ofLine line).result with
    | error f => simp [hline, hr, Reads, Except.bind]
    | ok r =>
      by_cases hopening : r.family = .opening
      · obtain ⟨parent, hp⟩ := Record.exists_payload_of_opening hopening
        simp [hline, hr, Reads, Except.bind, Builder.begin_of_opening _ hp, hopening, Except.map]
      · simp only [hline, hr, Reads, Except.bind, Builder.begin_of_ne_opening _ hopening, Outcome.fail, Except.map]
        simpa [hopening] using eq_comm

theorem deliver_inside_eq_error_iff :
    (inside b).deliver line = .error e ↔
      (hasTwoFields line = true ∧ (Record.ofLine line).result = .error e) ∨
      ∃ r, Reads line r ∧ r.family = .opening ∧ e = .malformed (.beginRepeated b.transaction.vxid r.line) := by
  rw [deliver_inside, deliverBody]
  cases hfields : hasTwoFields line with
  | false =>
    have hshort : ∀ r, ¬ Reads line r := by
      intro r hr
      have hread := hr.hasTwoFields
      rw [hfields] at hread
      cases hread
    simp [hshort]
  | true =>
    cases hr : (Record.ofLine line).result with
    | error f => simp [hr, Reads, Except.bind]
    | ok r =>
      by_cases hopening : r.family = .opening
      · simp [hr, Reads, Except.bind, Builder.feed_of_opening b hopening, hopening, Outcome.fail, Except.map, eq_comm]
      · simp [hr, Reads, Except.bind, Builder.feed_of_ne_opening b hopening, hopening, Except.map]

/-! ## Many lines -/

theorem deliverAll_eq_error_iff {p : Phase} {lines : List String} :
    p.deliverAll lines = .error e ↔
      ∃ front line back d, lines = front ++ line :: back ∧ p.deliverAll front = .ok d ∧
        d.phase.deliver line = .error e := by
  constructor
  · intro h
    induction lines generalizing p with
    | nil => cases h
    | cons line lines ih =>
      cases hd : p.deliver line with
      | error f =>
        rw [deliverAll_cons_of_error hd] at h
        cases h
        exact ⟨[], line, lines, ⟨[], p⟩, rfl, rfl, hd⟩
      | ok d =>
        rw [deliverAll_cons_of_ok hd] at h
        have hrest : d.phase.deliverAll lines = .error e := by
          cases hall : d.phase.deliverAll lines with
          | error f =>
            rw [hall] at h
            cases h
            rfl
          | ok d' =>
            rw [hall] at h
            cases h
        obtain ⟨front, stop, back, d', rfl, hfront, hstop⟩ := ih hrest
        refine ⟨line :: front, stop, back, d.append d', rfl, ?_, hstop⟩
        rw [deliverAll_cons_of_ok hd, hfront]
        rfl
  · rintro ⟨front, line, back, d, rfl, hfront, hline⟩
    rw [deliverAll_append_of_ok hfront, deliverAll_cons_of_error hline]
    rfl

/-! ## Open transactions -/

/-- The start line of the open transaction. -/
def startLine? : Phase → Option String
  | between => none
  | started t => some t.startLine
  | inside b => some b.transaction.startLine

theorem startLine?_of_deliver {p : Phase} {d : Delivery} {start : String} (h : p.deliver line = .ok d)
    (hd : d.phase.startLine? = some start) : start = line ∨ p.startLine? = some start := by
  have htake (b : Builder) (r : Record) : (b.take r).transaction.startLine = b.transaction.startLine :=
    congrArg Heading.startLine (b.heading_take r)
  cases p with
  | between =>
    rcases deliver_between_cases h with ⟨-, rfl⟩ | ⟨t, ht, rfl⟩
    · cases hd
    · obtain ⟨vxid, kind, level, rfl⟩ := ht.exists_started
      exact Or.inl (Option.some.inj hd).symm
  | started t =>
    obtain ⟨r, -, -, rfl⟩ := deliver_started_cases h
    exact Or.inr ((congrArg some (htake (Builder.start t) r)).symm.trans hd)
  | inside b =>
    rcases deliver_inside_cases h with ⟨-, rfl⟩ | ⟨r, -, -, rfl⟩
    · exact Or.inr hd
    · split at hd
      · cases hd
      · exact Or.inr ((congrArg some (htake b r)).symm.trans hd)

theorem startLine?_of_deliverAll {p : Phase} {lines : List String} {d : Delivery} {start : String}
    (h : p.deliverAll lines = .ok d) (hd : d.phase.startLine? = some start) :
    start ∈ lines ∨ p.startLine? = some start := by
  induction lines generalizing p d with
  | nil =>
    cases h
    exact Or.inr hd
  | cons line lines ih =>
    obtain ⟨first, rest, hfirst, hrest, rfl⟩ := deliverAll_cons_eq_ok h
    rcases ih hrest hd with hmem | hstart
    · exact Or.inl (List.mem_cons_of_mem line hmem)
    · rcases startLine?_of_deliver hfirst hstart with rfl | hstart
      · exact Or.inl List.mem_cons_self
      · exact Or.inr hstart

/-- What is wrong when a log ends in a phase. -/
def endFault? : Phase → Option LogFault
  | between => none
  | started t => some (.beginMissing t.startLine)
  | inside b => some (.endMissing b.transaction.startLine)

theorem startLine?_of_endFault {p : Phase} {fault : LogFault} (h : p.endFault? = some fault) :
    p.startLine? = some fault.line := by
  cases p <;> cases h <;> rfl

end Phase

theorem Delivery.close_eq_error_iff {maxDepth : Int} {d : Delivery} {e : Failure} :
    d.close maxDepth = .error e ↔ ∃ fault, d.phase.endFault? = some fault ∧ e = .malformed fault := by
  obtain ⟨finished, phase⟩ := d
  cases phase <;> simp [close, Reading.receive, Reading.finish, Phase.endFault?, eq_comm]

/-! ## Whole logs -/

/-- The reader comes to a trimmed line of the log in a phase. -/
def Arrives (lines : List String) (p : Phase) (line : String) : Prop :=
  ∃ front back d, lines.map strip = front ++ line :: back ∧ Phase.between.deliverAll front = .ok d ∧ d.phase = p

namespace Arrives
variable {lines : List String} {p : Phase} {line : String}

theorem mem (h : Arrives lines p line) : line ∈ lines.map strip := by
  obtain ⟨front, back, d, hlines, -, -⟩ := h
  rw [hlines]
  exact List.mem_append_right front List.mem_cons_self

theorem startLine?_mem (h : Arrives lines p line) {start : String} (hp : p.startLine? = some start) :
    start ∈ lines.map strip := by
  obtain ⟨front, back, d, hlines, hfront, rfl⟩ := h
  rw [hlines]
  rcases Phase.startLine?_of_deliverAll hfront hp with hmem | hnone
  · exact List.mem_append_left _ hmem
  · cases hnone

end Arrives

theorem exists_arrives_iff {lines : List String} {e : Failure} :
    (∃ p line, Arrives lines p line ∧ p.deliver line = .error e) ↔
      Phase.between.deliverAll (lines.map strip) = .error e := by
  rw [Phase.deliverAll_eq_error_iff]
  constructor
  · rintro ⟨p, line, ⟨front, back, d, hlines, hfront, rfl⟩, hline⟩
    exact ⟨front, line, back, d, hlines, hfront, hline⟩
  · rintro ⟨front, line, back, d, hlines, hfront, hline⟩
    exact ⟨d.phase, line, ⟨front, back, d, hlines, hfront, rfl⟩, hline⟩

/-- Reading fails at a line, or at the end of the log. -/
theorem readLines_eq_error_iff {maxDepth : Int} {lines : List String} {e : Failure} :
    (readLines maxDepth lines).result = .error e ↔
      (∃ p line, Arrives lines p line ∧ p.deliver line = .error e) ∨
      ∃ d fault, Phase.between.deliverAll (lines.map strip) = .ok d ∧ d.phase.endFault? = some fault ∧
        e = .malformed fault := by
  rw [readLines_eq_deliverAll, exists_arrives_iff]
  cases Phase.between.deliverAll (lines.map strip) with
  | error f => simp [Except.bind]
  | ok d => simp [Except.bind, Delivery.close_eq_error_iff]

end ProxyLog
