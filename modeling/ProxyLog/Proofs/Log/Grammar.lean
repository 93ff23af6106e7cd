import ProxyLog.Proofs.Log.Delivery

/-!
# The logs that are read

* `Block.Spells b t first rs last`: the lines of a block, each with what it is read as.
* `Block.Yields b t`: the transaction that a block makes; `LogYields` is the same for the parts of a log.
* `LogYields.deliverAll`, `exists_logYields`: the reader delivers some transactions and is between two of
  them just when its lines are parts of a log that yield these.
* `readLines_accepts_logs`: the reader accepts exactly the lines that make up a log, and puts what the
  blocks tell into its set, in order.
-/

set_option autoImplicit false

namespace ProxyLog

/-! ## The lines of an open transaction -/

/-- No record opens or closes a transaction. -/
def ArePlain (rs : List Record) : Prop := ∀ r ∈ rs, r.family ≠ .opening ∧ r.family ≠ .closing

theorem arePlain_nil : ArePlain [] := by
  intro r hr
  cases hr

namespace Phase

theorem deliverAll_of_plain {b : Builder} {body : List String} {rs : List Record}
    (h : readRecords body = .ok rs) (hplain : ArePlain rs) :
    (inside b).deliverAll body = .ok ⟨[], .inside (rs.foldl Builder.take b)⟩ := by
  induction body generalizing b rs with
  | nil =>
    cases h
    rfl
  | cons line body ih =>
    rcases readRecords_cons_eq_ok h with ⟨hshort, hrs⟩ | ⟨r, rest, hr, hrest, rfl⟩
    · rw [deliverAll_cons_of_ok (deliver_inside_of_short hshort), ih hrs hplain]
      rfl
    · obtain ⟨hopening, hclosing⟩ := hplain r List.mem_cons_self
      have hstep := deliver_inside_of_reads (b := b) hr hopening
      rw [if_neg hclosing] at hstep
      rw [deliverAll_cons_of_ok hstep, ih hrest fun q hq => hplain q (List.mem_cons_of_mem _ hq)]
      rfl

/-- A transaction that is open ends with the first closing record; what follows is read anew. -/
theorem exists_closing {b : Builder} {lines : List String} {txs : List Transaction}
    (h : (inside b).deliverAll lines = .ok ⟨txs, .between⟩) :
    ∃ body closing rest rs last others, lines = body ++ closing :: rest ∧
      readRecords body = .ok rs ∧ ArePlain rs ∧ Reads closing last ∧ last.family = .closing ∧
      between.deliverAll rest = .ok ⟨others, .between⟩ ∧
      txs = ((rs.foldl Builder.take b).take last).transaction :: others := by
  induction lines generalizing b txs with
  | nil => cases h
  | cons line lines ih =>
    obtain ⟨first, rest, hfirst, hrest, hd⟩ := deliverAll_cons_eq_ok h
    rcases deliver_inside_cases hfirst with ⟨hshort, rfl⟩ | ⟨r, hr, hopening, rfl⟩
    · rw [Delivery.nil_append] at hd
      subst hd
      obtain ⟨body, closing, tail, rs, last, others, rfl, hrs, h⟩ := ih hrest
      exact ⟨line :: body, closing, tail, rs, last, others, rfl,
        (readRecords_cons_of_short hshort body).trans hrs, h⟩
    · by_cases hclosing : r.family = .closing
      · rw [if_pos hclosing] at hd hrest
        obtain ⟨others, phase⟩ := rest
        cases hd
        exact ⟨[], line, lines, [], r, others, rfl, rfl, arePlain_nil, hr, hclosing, hrest, rfl⟩
      · rw [if_neg hclosing] at hd hrest
        rw [Delivery.nil_append] at hd
        subst hd
        obtain ⟨body, closing, tail, rs, last, others, rfl, hrs, hplain, h⟩ := ih hrest
        refine ⟨line :: body, closing, tail, r :: rs, last, others, rfl, ?_, ?_, h⟩
        · rw [readRecords_cons_of_reads hr, hrs]
          rfl
        · intro q hq
          rcases List.mem_cons.mp hq with rfl | hq
          · exact ⟨hopening, hclosing⟩
          · exact hplain q hq

end Phase

/-! ## Blocks -/

namespace Block

/-- The lines of a block, each with what it is read as. -/
structure Spells (b : Block) (t : Transaction) (first : Record) (rs : List Record) (last : Record) : Prop where
  start : Starts b.start t
  opening : Reads b.opening first
  opens : first.family = .opening
  body : readRecords b.body = .ok rs
  plain : ArePlain rs
  closing : Reads b.closing last
  closes : last.family = .closing

theorem after_block (t : Transaction) (first : Record) (rs : List Record) (last : Record) :
    Builder.after t (first :: (rs ++ [last])) = (rs.foldl Builder.take ((Builder.start t).take first)).take last := by
  rw [Builder.after, List.foldl_cons, List.foldl_append]
  rfl

/-- The block makes the transaction. -/
def Yields (b : Block) (built : Transaction) : Prop :=
  ∃ t first rs last, b.Spells t first rs last ∧
    built = (Builder.after t (first :: (rs ++ [last]))).transaction

variable {b : Block} {t built : Transaction} {first last : Record} {rs : List Record}

theorem Spells.readRecords_recordLines (h : b.Spells t first rs last) :
    readRecords b.recordLines = .ok (first :: (rs ++ [last])) := by
  have hclosing : readRecords [b.closing] = .ok [last] := by
    rw [readRecords_cons_of_reads h.closing]
    rfl
  rw [recordLines, List.cons_append, readRecords_cons_of_reads h.opening, readRecords_append h.body hclosing]
  rfl

/-- A block is read from its start line to its end, and one transaction is made of it. -/
theorem Yields.deliverAll (h : b.Yields built) :
    Phase.between.deliverAll b.lines = .ok ⟨[built], .between⟩ := by
  obtain ⟨t, first, rs, last, hb, rfl⟩ := h
  have hstart := Phase.deliver_between_of_starts hb.start
  have hopening := Phase.deliver_started_of_opening (t := t) hb.opening hb.opens
  have hbody := Phase.deliverAll_of_plain (b := (Builder.start t).take first) hb.body hb.plain
  have hclosing := Phase.deliver_inside_of_reads (b := rs.foldl Builder.take ((Builder.start t).take first))
    hb.closing (by rw [hb.closes]; decide)
  rw [if_pos hb.closes] at hclosing
  rw [lines, recordLines, Phase.deliverAll_cons_of_ok hstart, List.cons_append,
    Phase.deliverAll_cons_of_ok hopening, Phase.deliverAll_append_of_ok hbody,
    Phase.deliverAll_cons_of_ok hclosing, after_block]
  rfl

theorem Spells.builtFrom (h : b.Spells t first rs last) :
    t.BuiltFrom (first :: (rs ++ [last])) (Builder.after t (first :: (rs ++ [last]))).transaction := by
  obtain ⟨parent, hparent⟩ := Record.exists_payload_of_opening h.opens
  refine ⟨_, Builder.run_after h.opening.self hparent ?_, rfl, ?_⟩
  · intro r hr
    rcases List.mem_append.mp hr with hr | hr
    · exact ⟨reads_of_readRecords h.body r hr, (h.plain r hr).1⟩
    · rw [List.mem_singleton.mp hr]
      exact ⟨h.closing.self, by rw [h.closes]; decide⟩
  · rw [← List.cons_append, List.getLast?_concat, Option.map_some, Record.payload_of_closing h.closes]

theorem Yields.tells (h : b.Yields built) : b.Tells built := by
  obtain ⟨t, first, rs, last, hb, rfl⟩ := h
  exact ⟨t, _, hb.start.names, hb.readRecords_recordLines, hb.builtFrom⟩

theorem Yields.rawLines_eq (h : b.Yields built) (htrim : ∀ line ∈ b.lines, Text.strip line = line) :
    built.rawLines = b.keptLines := by
  obtain ⟨t, first, rs, last, hb, rfl⟩ := h
  obtain ⟨vxid, kind, level, rfl⟩ := hb.start.exists_started
  have hstart := congrArg Heading.startLine
    (Builder.heading_after (.started vxid kind level b.start) (first :: (rs ++ [last])))
  have hlines := map_line_of_readRecords hb.readRecords_recordLines
    fun line hline => htrim line (List.mem_cons_of_mem _ hline)
  rw [Transaction.rawLines, Builder.records_after]
  exact congrArg₂ List.cons hstart hlines

theorem exists_readRecords_iff {body : List String} :
    (∃ rs, readRecords body = .ok rs ∧ ArePlain rs) ↔
      ∀ line ∈ body, hasTwoFields line = false ∨
        ∃ r, Reads line r ∧ r.family ≠ .opening ∧ r.family ≠ .closing := by
  induction body with
  | nil =>
    constructor
    · intro _ line hline
      cases hline
    · intro _
      exact ⟨[], rfl, arePlain_nil⟩
  | cons line body ih =>
    rw [List.forall_mem_cons, ← ih]
    constructor
    · rintro ⟨rs, hrs, hplain⟩
      rcases readRecords_cons_eq_ok hrs with ⟨hshort, hrs⟩ | ⟨r, rest, hr, hrest, rfl⟩
      · exact ⟨Or.inl hshort, rs, hrs, hplain⟩
      · exact ⟨Or.inr ⟨r, hr, hplain r List.mem_cons_self⟩, rest, hrest,
          fun q hq => hplain q (List.mem_cons_of_mem _ hq)⟩
    · rintro ⟨hshort | ⟨r, hr, hplain⟩, rs, hrs, hrest⟩
      · exact ⟨rs, (readRecords_cons_of_short hshort body).trans hrs, hrest⟩
      · refine ⟨r :: rs, ?_, List.forall_mem_cons.mpr ⟨hplain, hrest⟩⟩
        rw [readRecords_cons_of_reads hr, hrs]
        rfl

/-- With fields of a readable length, the blocks that make a transaction are the valid ones. -/
theorem exists_yields_iff (hshort : ∀ field ∈ Text.words b.start, field.length ≤ Number.digitLimit) :
    (∃ built, b.Yields built) ↔ b.IsValid := by
  constructor
  · rintro ⟨built, t, first, rs, last, hb, rfl⟩
    exact ⟨(exists_starts_iff hshort).mp ⟨t, hb.start⟩, ⟨first, hb.opening, hb.opens⟩,
      exists_readRecords_iff.mp ⟨rs, hb.body, hb.plain⟩, ⟨last, hb.closing, hb.closes⟩⟩
  · intro hb
    obtain ⟨t, hstart⟩ := (exists_starts_iff hshort).mpr hb.start
    obtain ⟨first, hopening, hopens⟩ := hb.opening
    obtain ⟨rs, hbody, hplain⟩ := exists_readRecords_iff.mpr hb.body
    obtain ⟨last, hclosing, hcloses⟩ := hb.closing
    exact ⟨_, t, first, rs, last, ⟨hstart, hopening, hopens, hbody, hplain, hclosing, hcloses⟩, rfl⟩

end Block

/-! ## Logs -/

/-- The parts of a log, with the transactions that its blocks make. -/
inductive LogYields : List LogPart → List Transaction → Prop
  | nil : LogYields [] []
  | noise {line : String} {parts : List LogPart} {txs : List Transaction} (h : isStartLine line = false)
      (hrest : LogYields parts txs) : LogYields (.noise line :: parts) txs
  | block {b : Block} {t : Transaction} {parts : List LogPart} {txs : List Transaction} (h : b.Yields t)
      (hrest : LogYields parts txs) : LogYields (.block b :: parts) (t :: txs)

variable {parts : List LogPart} {txs : List Transaction}

theorem LogYields.deliverAll (h : LogYields parts txs) :
    Phase.between.deliverAll (parts.flatMap (·.lines)) = .ok ⟨txs, .between⟩ := by
  induction h with
  | nil => rfl
  | noise hline _ ih =>
    rw [List.flatMap_cons, LogPart.lines, List.singleton_append,
      Phase.deliverAll_cons_of_ok (Phase.deliver_between_of_not_start hline), ih]
    rfl
  | block hb _ ih =>
    rw [List.flatMap_cons, LogPart.lines, Phase.deliverAll_append_of_ok hb.deliverAll, ih]
    rfl

theorem LogYields.exists_yields (h : LogYields parts txs) {t : Transaction} (ht : t ∈ txs) :
    ∃ b : Block, b.Yields t := by
  induction h with
  | nil => cases ht
  | noise _ _ ih => exact ih ht
  | block hb _ ih =>
    rcases List.mem_cons.mp ht with rfl | ht
    · exact ⟨_, hb⟩
    · exact ih ht

/-- Lines that finish the transaction of a start line begin with its block. -/
theorem Phase.exists_block {line : String} {lines : List String} {t : Transaction} {txs : List Transaction}
    (hstart : Starts line t) (h : (started t).deliverAll lines = .ok ⟨txs, .between⟩) :
    ∃ (b : Block) (tail : List String) (built : Transaction) (others : List Transaction),
      line :: lines = b.lines ++ tail ∧ b.Yields built ∧
        between.deliverAll tail = .ok ⟨others, .between⟩ ∧ txs = built :: others := by
  cases lines with
  | nil => cases h
  | cons opening lines =>
    obtain ⟨first, rest, hfirst, hrest, hd⟩ := deliverAll_cons_eq_ok h
    obtain ⟨r, hr, hopens, rfl⟩ := deliver_started_cases hfirst
    rw [Delivery.nil_append] at hd
    subst hd
    obtain ⟨body, closing, tail, rs, last, others, rfl, hrs, hplain, hlast, hcloses, htail, rfl⟩ :=
      exists_closing hrest
    refine ⟨⟨line, opening, body, closing⟩, tail, _, others, ?_, ?_, htail, rfl⟩
    · simp [Block.lines, Block.recordLines]
    · exact ⟨t, r, rs, last, ⟨hstart, hr, hopens, hrs, hplain, hlast, hcloses⟩,
        (congrArg Builder.transaction (Block.after_block t r rs last)).symm⟩

theorem exists_logYields {lines : List String} {txs : List Transaction}
    (h : Phase.between.deliverAll lines = .ok ⟨txs, .between⟩) :
    ∃ parts, lines = parts.flatMap (·.lines) ∧ LogYields parts txs := by
  -- A block comes off whole, so the induction is on the number of lines that are left.
  induction hn : lines.length using Nat.strong_induction_on generalizing lines txs with
  | _ n ih =>
    subst hn
    cases lines with
    | nil =>
      cases h
      exact ⟨[], rfl, .nil⟩
    | cons line lines =>
      obtain ⟨first, rest, hfirst, hrest, hd⟩ := Phase.deliverAll_cons_eq_ok h
      rcases Phase.deliver_between_cases hfirst with ⟨hnoise, rfl⟩ | ⟨t, hstart, rfl⟩
      · rw [Delivery.nil_append] at hd
        subst hd
        obtain ⟨parts, rfl, hparts⟩ := ih _ (Nat.lt_succ_self _) hrest rfl
        exact ⟨.noise line :: parts, rfl, .noise hnoise hparts⟩
      · rw [Delivery.nil_append] at hd
        subst hd
        obtain ⟨b, tail, built, others, hlines, hb, htail, rfl⟩ := Phase.exists_block hstart hrest
        have hfewer : tail.length < (line :: lines).length := by
          rw [hlines, List.length_append, Block.lines, List.length_cons]
          omega
        obtain ⟨parts, rfl, hparts⟩ := ih _ hfewer htail rfl
        exact ⟨.block b :: parts, hlines, .block hb hparts⟩

/-- The transactions of a log are those that its blocks tell of, and keep the lines that count. -/
theorem LogYields.tells (h : LogYields parts txs)
    (htrim : ∀ line ∈ parts.flatMap (·.lines), Text.strip line = line) :
    List.Forall₂ (fun b t => b.Tells t ∧ t.rawLines = b.keptLines) (parts.filterMap (·.block?)) txs := by
  induction h with
  | nil => exact .nil
  | noise _ _ ih =>
    rw [List.flatMap_cons, List.forall_mem_append] at htrim
    exact ih htrim.2
  | block hb _ ih =>
    rw [List.flatMap_cons, List.forall_mem_append] at htrim
    exact .cons ⟨hb.tells, hb.rawLines_eq htrim.1⟩ (ih htrim.2)

theorem LogYields.isValid (h : LogYields parts txs)
    (hshort : ∀ line ∈ parts.flatMap (·.lines), ∀ field ∈ Text.words line, field.length ≤ Number.digitLimit) :
    ∀ p ∈ parts, p.IsValid := by
  induction h with
  | nil =>
    intro p hp
    cases hp
  | noise hline _ ih =>
    rw [List.flatMap_cons, List.forall_mem_append] at hshort
    exact List.forall_mem_cons.mpr ⟨hline, ih hshort.2⟩
  | block hb _ ih =>
    rw [List.flatMap_cons, List.forall_mem_append] at hshort
    have hstart := hshort.1 _ List.mem_cons_self
    exact List.forall_mem_cons.mpr ⟨(Block.exists_yields_iff hstart).mp ⟨_, hb⟩, ih hshort.2⟩

theorem exists_logYields_of_isValid (h : ∀ p ∈ parts, p.IsValid)
    (hshort : ∀ line ∈ parts.flatMap (·.lines), ∀ field ∈ Text.words line, field.length ≤ Number.digitLimit) :
    ∃ txs, LogYields parts txs := by
  induction parts with
  | nil => exact ⟨[], .nil⟩
  | cons p parts ih =>
    obtain ⟨hp, hrest⟩ := List.forall_mem_cons.mp h
    rw [List.flatMap_cons, List.forall_mem_append] at hshort
    obtain ⟨txs, htxs⟩ := ih hrest hshort.2
    cases p with
    | noise line => exact ⟨txs, .noise hp htxs⟩
    | block b =>
      obtain ⟨t, ht⟩ := (Block.exists_yields_iff (hshort.1 _ List.mem_cons_self)).mpr hp
      exact ⟨t :: txs, .block ht htxs⟩

/-- With fields of a readable length, the logs that are read are those that consist of noise and blocks.
Each block, in order, puts its transaction into the set, and the transaction keeps the lines of the block
that count. -/
theorem readLines_accepts_logs (maxDepth : Int) {lines : List String}
    (hshort : ∀ line ∈ lines, ∀ field ∈ Text.words line, field.length ≤ Number.digitLimit) :
    ((∃ ts, (readLines maxDepth lines).result = .ok ts) ↔ ∃ parts, IsLog parts lines) ∧
      ∀ parts, IsLog parts lines →
        ∃ txs, (readLines maxDepth lines).result = .ok (.ofList maxDepth txs) ∧
          List.Forall₂ (fun b t => b.Tells t ∧ t.rawLines = b.keptLines) (parts.filterMap (·.block?)) txs := by
  have hstripped : ∀ line ∈ lines.map Text.strip, ∀ field ∈ Text.words line,
      field.length ≤ Number.digitLimit := by
    intro line hline
    obtain ⟨raw, hraw, rfl⟩ := List.mem_map.mp hline
    rw [Text.words_strip]
    exact hshort raw hraw
  have hread : ∀ parts, IsLog parts lines →
      ∃ txs, (readLines maxDepth lines).result = .ok (.ofList maxDepth txs) ∧
        List.Forall₂ (fun b t => b.Tells t ∧ t.rawLines = b.keptLines) (parts.filterMap (·.block?)) txs := by
    rintro parts ⟨hlines, hvalid⟩
    have hshort' := hstripped
    have htrim := Text.strip_of_mem_map_strip lines
    rw [hlines] at hshort' htrim
    obtain ⟨txs, htxs⟩ := exists_logYields_of_isValid hvalid hshort'
    refine ⟨txs, readLines_eq_ok_iff.mpr ⟨txs, ?_, rfl⟩, htxs.tells htrim⟩
    rw [hlines]
    exact htxs.deliverAll
  refine ⟨⟨?_, ?_⟩, hread⟩
  · rintro ⟨ts, hts⟩
    obtain ⟨txs, htxs, -⟩ := readLines_eq_ok_iff.mp hts
    obtain ⟨parts, hlines, hparts⟩ := exists_logYields htxs
    rw [hlines] at hstripped
    exact ⟨parts, hlines, hparts.isValid hstripped⟩
  · rintro ⟨parts, hlog⟩
    obtain ⟨txs, htxs, -⟩ := hread parts hlog
    exact ⟨_, htxs⟩

/-- A log with noise, with a line inside a transaction that does not count, and with a transaction that comes
once more. -/
def noisyLines : List String :=
  ["preamble", " *12*  << Request  >> 07 ", "--  Begin  req 1 rxreq", "--", "--  ReqHeader  Via: a", "--  End", "",
   "***  << BeReq  >> 8", "--- Begin  bereq 7 fetch", "--- End",
   "**  << Request  >> 7", "--  Begin  req 1 restart", "--  End"]

def noisyParts : List LogPart := [
  .noise "preamble",
  .block ⟨"*12*  << Request  >> 07", "--  Begin  req 1 rxreq", ["--", "--  ReqHeader  Via: a"], "--  End"⟩,
  .noise "",
  .block ⟨"***  << BeReq  >> 8", "--- Begin  bereq 7 fetch", [], "--- End"⟩,
  .block ⟨"**  << Request  >> 7", "--  Begin  req 1 restart", [], "--  End"⟩]

theorem readLines_accepts_noisy :
    (∀ line ∈ noisyLines, ∀ field ∈ Text.words line, field.length ≤ Number.digitLimit) ∧
      IsLog noisyParts noisyLines ∧
        ∃ txs, (readLines 100 noisyLines).result = .ok (.ofList 100 txs) ∧
          List.Forall₂ (fun b t => b.Tells t ∧ t.rawLines = b.keptLines)
            (noisyParts.filterMap (·.block?)) txs ∧
          (TransactionSet.ofList 100 txs).toList.map (·.vxid) = [7, 8] ∧
          ((TransactionSet.ofList 100 txs).get? 7).map (fun t => (t.reason, t.rawLines)) =
            some ("restart", ["**  << Request  >> 7", "--  Begin  req 1 restart", "--  End"]) := by
  have hshort : ∀ line ∈ noisyLines, ∀ field ∈ Text.words line, field.length ≤ Number.digitLimit := by
    decide +kernel
  have hpadded : IsProperStart "*12*  << Request  >> 07" :=
    ⟨"*12*", "<<", "Request", ">>", "07", by decide +kernel, by decide +kernel, rfl, rfl, by decide +kernel⟩
  have hfetch : IsProperStart "***  << BeReq  >> 8" :=
    ⟨"***", "<<", "BeReq", ">>", "8", by decide +kernel, by decide +kernel, rfl, rfl, by decide +kernel⟩
  have hrestart : IsProperStart "**  << Request  >> 7" :=
    ⟨"**", "<<", "Request", ">>", "7", by decide +kernel, by decide +kernel, rfl, rfl, by decide +kernel⟩
  have hheader : Reads "--  ReqHeader  Via: a"
      ⟨"ReqHeader", "Via: a", "--  ReqHeader  Via: a", .header ⟨"Via", "a", .request⟩⟩ := rfl
  have hlog : IsLog noisyParts noisyLines := by
    refine ⟨by decide +kernel, ?_⟩
    intro p hp
    rcases List.mem_cons.mp hp with rfl | hp
    · exact (by decide +kernel : isStartLine "preamble" = false)
    rcases List.mem_cons.mp hp with rfl | hp
    · refine ⟨hpadded, ⟨_, rfl, rfl⟩, ?_, ⟨_, rfl, rfl⟩⟩
      intro line hline
      rcases List.mem_cons.mp hline with rfl | hline
      · exact Or.inl (by decide +kernel)
      · rw [List.mem_singleton.mp hline]
        exact Or.inr ⟨_, hheader, by decide, by decide⟩
    rcases List.mem_cons.mp hp with rfl | hp
    · exact (by decide +kernel : isStartLine "" = false)
    rcases List.mem_cons.mp hp with rfl | hp
    · exact ⟨hfetch, ⟨_, rfl, rfl⟩, nofun, ⟨_, rfl, rfl⟩⟩
    · rw [List.mem_singleton.mp hp]
      exact ⟨hrestart, ⟨_, rfl, rfl⟩, nofun, ⟨_, rfl, rfl⟩⟩
  obtain ⟨txs, hread, htells⟩ := (readLines_accepts_logs 100 hshort).2 noisyParts hlog
  have hvxids : (TransactionSet.ofList 100 txs).toList.map (·.vxid) = [7, 8] :=
    Outcome.eq_of_result (fun ts => ts.toList.map (·.vxid)) hread rfl
  have hseven : ((TransactionSet.ofList 100 txs).get? 7).map (fun t => (t.reason, t.rawLines)) =
      some ("restart", ["**  << Request  >> 7", "--  Begin  req 1 restart", "--  End"]) :=
    Outcome.eq_of_result (fun ts => (ts.get? 7).map fun t => (t.reason, t.rawLines)) hread rfl
  exact ⟨hshort, hlog, txs, hread, htells, hvxids, hseven⟩

end ProxyLog
