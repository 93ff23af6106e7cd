import ProxyLog.Proofs.Log.Grammar
import ProxyLog.Proofs.Text.Lines
import ProxyLog.Proofs.Transaction.Merging

/-!
# A log written and read again

* `Block.Spells.compact`: a block without the lines that do not count spells the same.
* `Transaction.Rereads t`: the lines that a transaction keeps make the same transaction again;
  `LogYields.rereads` is why every transaction of a log is such a one.
* `TransactionSet.logLines txs`: the lines of the text of some transactions; `rawLog_eq` says that they are.
* `readText_rawLog`: the text of a set that was read is read as the same set.
-/

set_option autoImplicit false

namespace ProxyLog

/-! ## The lines that a transaction keeps -/

namespace Block

/-- The block without the lines that do not count. -/
def compact (b : Block) : Block := { b with body := b.body.filter hasTwoFields }

variable {b : Block} {t built : Transaction} {first last : Record} {rs : List Record}

theorem Spells.compact (h : b.Spells t first rs last) : b.compact.Spells t first rs last :=
  { h with body := (readRecords_filter b.body).trans h.body }

theorem Spells.lines_compact (h : b.Spells t first rs last) : b.compact.lines = b.keptLines := by
  have hlast : [b.closing].filter hasTwoFields = [b.closing] :=
    List.filter_cons_of_pos h.closing.hasTwoFields
  rw [keptLines, recordLines, List.cons_append, List.filter_cons_of_pos h.opening.hasTwoFields,
    List.filter_append, hlast]
  rfl

theorem Spells.ne_empty (h : b.Spells t first rs last) : ∀ line ∈ b.keptLines, line ≠ "" := by
  rintro line hline rfl
  rcases List.mem_cons.mp hline with hstart | hrecord
  · have hstarts := h.start.isStart
    rw [← hstart] at hstarts
    exact absurd hstarts (by decide)
  · have hfields := (List.mem_filter.mp hrecord).2
    rw [hasTwoFields_empty] at hfields
    cases hfields

theorem keptLines_subset (b : Block) : b.keptLines ⊆ b.lines :=
  List.cons_subset_cons b.start (List.filter_subset_self b.recordLines)

end Block

/-- The lines that the transaction keeps are lines of a log, and make the transaction again. -/
structure Transaction.Rereads (t : Transaction) : Prop where
  delivers : Phase.between.deliverAll t.rawLines = .ok ⟨[t], .between⟩
  notEmpty : ∀ line ∈ t.rawLines, line ≠ ""
  trimmed : ∀ line ∈ t.rawLines, Text.strip line = line
  oneLine : ∀ line ∈ t.rawLines, Text.IsOneLine line

theorem Block.Yields.rereads {b : Block} {t : Transaction} (h : b.Yields t)
    (htrim : ∀ line ∈ b.lines, Text.strip line = line) (hone : ∀ line ∈ b.lines, Text.IsOneLine line) :
    t.Rereads := by
  have hlines := h.rawLines_eq htrim
  have hmem : ∀ line ∈ t.rawLines, line ∈ b.lines := by
    intro line hline
    rw [hlines] at hline
    exact b.keptLines_subset hline
  obtain ⟨started, first, rs, last, hb, rfl⟩ := h
  have hcompact : b.compact.Yields (Builder.after started (first :: (rs ++ [last]))).transaction :=
    ⟨started, first, rs, last, hb.compact, rfl⟩
  refine ⟨?_, ?_, fun line hline => htrim line (hmem line hline), fun line hline => hone line (hmem line hline)⟩
  · rw [hlines, ← hb.lines_compact]
    exact hcompact.deliverAll
  · rw [hlines]
    exact hb.ne_empty

theorem LogYields.rereads {parts : List LogPart} {txs : List Transaction} (h : LogYields parts txs)
    (htrim : ∀ line ∈ parts.flatMap (·.lines), Text.strip line = line)
    (hone : ∀ line ∈ parts.flatMap (·.lines), Text.IsOneLine line) : ∀ t ∈ txs, t.Rereads := by
  induction h with
  | nil =>
    intro t ht
    cases ht
  | noise _ _ ih =>
    rw [List.flatMap_cons, List.forall_mem_append] at htrim hone
    exact ih htrim.2 hone.2
  | block hb _ ih =>
    rw [List.flatMap_cons, List.forall_mem_append] at htrim hone
    exact List.forall_mem_cons.mpr ⟨hb.rereads htrim.1 hone.1, ih htrim.2 hone.2⟩

/-! ## The text of a set -/

namespace TransactionSet

/-- The lines of the text of transactions that follow others. -/
def followingLines (t : Transaction) : List String :=
  (if t.kind = .session then [""] else []) ++ (t.rawLines ++ [""])

def logLines : List Transaction → List String
  | [] => []
  | t :: rest => t.rawLines ++ [""] ++ rest.flatMap followingLines

theorem transactionText_eq (t : Transaction) : transactionText t = Text.textOf (t.rawLines ++ [""]) := by
  rw [Text.textOf_append]
  rfl

theorem followingText_eq (t : Transaction) : followingText t = Text.textOf (followingLines t) := by
  rw [followingText, followingLines, transactionText_eq, Text.textOf_append (if t.kind = .session then [""] else [])]
  congr 1
  split <;> rfl

theorem join_followingText (txs : List Transaction) :
    String.join (txs.map followingText) = Text.textOf (txs.flatMap followingLines) := by
  induction txs with
  | nil => rfl
  | cons t txs ih =>
    rw [List.map_cons, String.join_cons, List.flatMap_cons, Text.textOf_append, ← ih, followingText_eq]

theorem rawLog_eq (ts : TransactionSet) : ts.rawLog = Text.textOf (logLines ts.toList) := by
  rw [rawLog]
  cases ts.toList with
  | nil => rfl
  | cons t rest =>
    rw [logLines, Text.textOf_append, ← join_followingText, ← transactionText_eq]

/-! ## What is read of it -/

variable {txs : List Transaction}

/-- Blank lines are put between the lines of the transactions, and nothing else. -/
theorem filter_logLines (h : ∀ t ∈ txs, t.Rereads) :
    (logLines txs).filter (· ≠ "") = txs.flatMap (·.rawLines) := by
  have hkept : ∀ t ∈ txs, t.rawLines.filter (· ≠ "") = t.rawLines := by
    intro t ht
    exact List.filter_eq_self.mpr fun line hline => decide_eq_true ((h t ht).notEmpty line hline)
  cases txs with
  | nil => rfl
  | cons t rest =>
    obtain ⟨ht, hrest⟩ := List.forall_mem_cons.mp hkept
    have hfollowing : ∀ u ∈ rest, (followingLines u).filter (· ≠ "") = u.rawLines := by
      intro u hu
      rw [followingLines, List.filter_append, List.filter_append, hrest u hu]
      split <;> simp
    rw [logLines, List.filter_append, List.filter_append, ht, List.filter_flatMap, List.flatMap_congr hfollowing,
      List.flatMap_cons]
    simp

theorem mem_logLines {line : String} (h : line ∈ logLines txs) (hline : line ≠ "")
    (htxs : ∀ t ∈ txs, t.Rereads) : ∃ t ∈ txs, line ∈ t.rawLines := by
  apply List.mem_flatMap.mp
  rw [← filter_logLines htxs]
  exact List.mem_filter.mpr ⟨h, decide_eq_true hline⟩

theorem isOneLine_of_mem_logLines (h : ∀ t ∈ txs, t.Rereads) :
    ∀ line ∈ logLines txs, Text.IsOneLine line := by
  intro line hline
  by_cases hempty : line = ""
  · rw [hempty]
    exact Text.isOneLine_empty
  · obtain ⟨t, ht, hraw⟩ := mem_logLines hline hempty h
    exact (h t ht).oneLine line hraw

theorem strip_of_mem_logLines (h : ∀ t ∈ txs, t.Rereads) : ∀ line ∈ logLines txs, Text.strip line = line := by
  intro line hline
  by_cases hempty : line = ""
  · rw [hempty]
    rfl
  · obtain ⟨t, ht, hraw⟩ := mem_logLines hline hempty h
    exact (h t ht).trimmed line hraw

theorem deliverAll_rawLines_blank {t : Transaction} (h : t.Rereads) :
    Phase.between.deliverAll (t.rawLines ++ [""]) = .ok ⟨[t], .between⟩ := by
  rw [Phase.deliverAll_append_of_ok h.delivers, Phase.deliverAll_empty_cons (fun t => by simp)]
  rfl

theorem deliverAll_followingLines {t : Transaction} (h : t.Rereads) :
    Phase.between.deliverAll (followingLines t) = .ok ⟨[t], .between⟩ := by
  rw [followingLines]
  split
  · rw [List.singleton_append, Phase.deliverAll_empty_cons (fun t => by simp), deliverAll_rawLines_blank h]
  · exact deliverAll_rawLines_blank h

theorem deliverAll_flatMap {linesOf : Transaction → List String}
    (h : ∀ t ∈ txs, Phase.between.deliverAll (linesOf t) = .ok ⟨[t], .between⟩) :
    Phase.between.deliverAll (txs.flatMap linesOf) = .ok ⟨txs, .between⟩ := by
  induction txs with
  | nil => rfl
  | cons t txs ih =>
    obtain ⟨ht, hrest⟩ := List.forall_mem_cons.mp h
    rw [List.flatMap_cons, Phase.deliverAll_append_of_ok ht, ih hrest]
    rfl

theorem deliverAll_logLines (h : ∀ t ∈ txs, t.Rereads) :
    Phase.between.deliverAll (logLines txs) = .ok ⟨txs, .between⟩ := by
  cases txs with
  | nil => rfl
  | cons t rest =>
    obtain ⟨ht, hrest⟩ := List.forall_mem_cons.mp h
    have hfollowing := deliverAll_flatMap fun u hu => deliverAll_followingLines (hrest u hu)
    rw [logLines, Phase.deliverAll_append_of_ok (deliverAll_rawLines_blank ht), hfollowing]
    rfl

end TransactionSet

/-! ## The round trip -/

/-- The transactions of a log whose trimmed lines hold no line boundary make themselves again. -/
theorem rereads_of_readLines {maxDepth : Int} {lines : List String} {ts : TransactionSet}
    (hone : ∀ line ∈ lines, Text.IsOneLine (Text.strip line)) (h : (readLines maxDepth lines).result = .ok ts) :
    (∀ t ∈ ts.toList, t.Rereads) ∧ ts = .ofList maxDepth ts.toList := by
  obtain ⟨txs, hdeliver, rfl⟩ := readLines_eq_ok_iff.mp h
  obtain ⟨parts, hlines, hparts⟩ := exists_logYields hdeliver
  have htrim := Text.strip_of_mem_map_strip lines
  have hone' := List.forall_mem_map.mpr hone
  rw [hlines] at htrim hone'
  exact ⟨fun t ht => hparts.rereads htrim hone' t (TransactionSet.mem_of_mem_ofList ht),
    (TransactionSet.ofList_toList_ofList maxDepth txs).symm⟩

/-- A set that was read from lines without a boundary inside is read again from its text. The text holds
the lines of its transactions and blank lines. The lines of a text are of that kind. -/
theorem readText_rawLog (maxDepth : Int) :
    (∀ lines ts, (∀ line ∈ lines, Text.IsOneLine (Text.strip line)) →
      (readLines maxDepth lines).result = .ok ts →
        (readText maxDepth ts.rawLog).result = .ok ts ∧
          (Text.lines ts.rawLog).filter (· ≠ "") = ts.toList.flatMap (·.rawLines)) ∧
      ∀ text, ∀ line ∈ Text.lines text, Text.IsOneLine (Text.strip line) := by
  refine ⟨?_, fun text line hline => (Text.isOneLine_of_mem_lines hline).strip⟩
  intro lines ts hone h
  obtain ⟨hrereads, hts⟩ := rereads_of_readLines hone h
  have hlines : Text.lines ts.rawLog = TransactionSet.logLines ts.toList := by
    rw [TransactionSet.rawLog_eq]
    exact Text.lines_textOf (TransactionSet.isOneLine_of_mem_logLines hrereads)
  have htrim : (TransactionSet.logLines ts.toList).map Text.strip = TransactionSet.logLines ts.toList := by
    conv_rhs => rw [← List.map_id (TransactionSet.logLines ts.toList)]
    exact List.map_congr_left (TransactionSet.strip_of_mem_logLines hrereads)
  constructor
  · rw [readText, hlines]
    refine readLines_eq_ok_iff.mpr ⟨ts.toList, ?_, hts⟩
    rw [htrim]
    exact TransactionSet.deliverAll_logLines hrereads
  · rw [hlines]
    exact TransactionSet.filter_logLines hrereads

/-- A log with noise, with a session behind a request, and with a transaction that comes once more. -/
def reopenedLines : List String :=
  ["preamble", " **  << Request  >> 2", "--  Begin  req 1 rxreq ", "--", "--  ReqHeader  Via: a", "--  End",
   "*   << Session  >> 1", "-   Begin  sess 0 HTTP/1", "-   Link  req 2 rxreq", "-   End", "",
   "**  << Request  >> 2", "--  Begin  req 1 restart", "--  End"]

theorem readText_rawLog_reopened : ∃ ts,
    (∀ line ∈ reopenedLines, Text.IsOneLine (Text.strip line)) ∧
      (readLines 100 reopenedLines).result = .ok ts ∧ (readText 100 ts.rawLog).result = .ok ts ∧
        (Text.lines ts.rawLog).filter (· ≠ "") = ts.toList.flatMap (·.rawLines) ∧
        ts.toList.map (·.vxid) = [2, 1] ∧ (ts.get? 2).map (·.reason) = some "restart" ∧
        ts.rawLog = "**  << Request  >> 2\n--  Begin  req 1 restart\n--  End\n\n\n" ++
          "*   << Session  >> 1\n-   Begin  sess 0 HTTP/1\n-   Link  req 2 rxreq\n-   End\n\n" := by
  have hone : ∀ line ∈ reopenedLines, Text.IsOneLine (Text.strip line) := by decide +kernel
  obtain ⟨ts, hts⟩ : ∃ ts, (readLines 100 reopenedLines).result = .ok ts := ⟨_, rfl⟩
  obtain ⟨hread, hlines⟩ := (readText_rawLog 100).1 reopenedLines ts hone hts
  have hvxids : ts.toList.map (·.vxid) = [2, 1] := Outcome.eq_of_result (·.toList.map (·.vxid)) hts rfl
  have htwo : (ts.get? 2).map (·.reason) = some "restart" :=
    Outcome.eq_of_result (fun ts => (ts.get? 2).map (·.reason)) hts rfl
  have htext : ts.rawLog = "**  << Request  >> 2\n--  Begin  req 1 restart\n--  End\n\n\n" ++
      "*   << Session  >> 1\n-   Begin  sess 0 HTTP/1\n-   Link  req 2 rxreq\n-   End\n\n" :=
    Outcome.eq_of_result (·.rawLog) hts rfl
  exact ⟨ts, hone, hts, hread, hlines, hvxids, htwo, htext⟩

end ProxyLog
