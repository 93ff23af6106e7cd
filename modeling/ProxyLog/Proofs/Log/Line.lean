import Mathlib.Data.List.Basic
import ProxyLog.Log.Block
import ProxyLog.Proofs.Text.Blank

/-!
# Lines and their records

* `hasTwoFields_strip_iff`: a trimmed line has two fields just when the line has two words.
* `Reads.line_eq`, `Reads.self`: a record keeps the trimmed line it was read from, and that line is read as the
  same record.
* `ofLine_eq_error_cases`: why a line is no record.
* `readRecords_cons_eq_ok`, `readRecords_append`: the records of many lines; `map_line_of_readRecords`: the lines
  that these keep.
-/

set_option autoImplicit false

namespace ProxyLog

open Text

/-! ## Fields -/

theorem length_wordsOf_of_afterWord_nil {cs : List Char} (h : afterWord cs = []) : (wordsOf cs).length ≤ 1 := by
  cases cs with
  | nil => exact Nat.zero_le 1
  | cons c cs =>
    cases hc : isBlank c with
    | false =>
      rw [wordsOf_cons hc, h]
      exact Nat.le_refl 1
    | true =>
      have hnil : trimStart (c :: cs) = [] := by simpa [afterWord, hc] using h
      rw [← wordsOf_trimStart, hnil]
      exact Nat.zero_le 1

/-- A trimmed text with something behind its first word has two. -/
theorem two_le_length_wordsOf {cs : List Char} (h : afterWord (trim cs) ≠ []) : 2 ≤ (wordsOf cs).length := by
  rw [← wordsOf_trim]
  cases htrim : trim cs with
  | nil =>
    rw [htrim] at h
    exact absurd rfl h
  | cons c rest =>
    have htrimmed := trimStart_trim cs
    rw [htrim] at htrimmed h
    have hc := isBlank_head_of_trimStart htrimmed
    cases hafter : afterWord (c :: rest) with
    | nil => exact absurd hafter h
    | cons d ds =>
      have hd : isBlank d = false := isBlank_head_of_trimStart hafter
      rw [wordsOf_cons hc, hafter, wordsOf_cons hd]
      simp

theorem splitChars_isSome_iff {cs : List Char} : (splitChars cs).isSome = true ↔ afterWord cs ≠ [] := by
  unfold splitChars
  cases afterWord cs <;> simp

theorem hasTwoFields_of_two_le {line : String} (h : 2 ≤ (words line).length) : hasTwoFields line = true := by
  refine splitChars_isSome_iff.mpr ?_
  intro hnil
  have hle := length_wordsOf_of_afterWord_nil hnil
  rw [words, List.length_map] at h
  omega

theorem hasTwoFields_strip_iff {line : String} :
    hasTwoFields (strip line) = true ↔ 2 ≤ (words line).length := by
  constructor
  · intro h
    rw [words, List.length_map]
    apply two_le_length_wordsOf
    rw [← toList_strip]
    exact splitChars_isSome_iff.mp h
  · intro h
    apply hasTwoFields_of_two_le
    rwa [words_strip]

/-! ## Records -/

namespace Reads

variable {line : String} {r : Record}

theorem exists_parts (h : Reads line r) :
    ∃ tag value, splitLine (strip line) = .ok (tag, value) ∧
      (Record.ofParts tag value (strip line)).result = .ok r := by
  rw [Reads, Record.ofLine_result] at h
  cases hsplit : splitLine (strip line) with
  | error e =>
    rw [hsplit] at h
    cases h
  | ok parts =>
    rw [hsplit] at h
    exact ⟨parts.1, parts.2, rfl, h⟩

theorem line_eq (h : Reads line r) : r.line = strip line := by
  obtain ⟨tag, value, -, h⟩ := h.exists_parts
  unfold Record.ofParts at h
  split at h
  · rw [Outcome.bind_result] at h
    cases h
    rfl
  · split at h
    · cases h
      rfl
    · cases h

theorem hasTwoFields (h : Reads line r) : hasTwoFields line = true := by
  obtain ⟨tag, value, hsplit, -⟩ := h.exists_parts
  apply hasTwoFields_of_two_le
  rw [← hasTwoFields_strip_iff]
  unfold splitLine at hsplit
  rw [← toList_strip, strip_strip] at hsplit
  unfold ProxyLog.hasTwoFields
  split at hsplit
  · rename_i parts hparts
    rw [hparts]
    rfl
  · cases hsplit

theorem self (h : Reads line r) : Reads r.line r := by
  have hsame : Record.ofLine (strip line) = Record.ofLine line := Record.ofLine_congr (strip_strip line)
  rw [Reads, h.line_eq, hsame]
  exact h

end Reads

/-- A line is no record when it is too short, or when its value breaks the grammar of its tag. -/
theorem ofLine_eq_error_cases {line : String} {e : Failure} (h : (Record.ofLine line).result = .error e) :
    e = .malformed (.tooFewFields (strip line)) ∨
      ∃ tag value grammar fault, splitLine (strip line) = .ok (tag, value) ∧
        Grammar.read grammar value = .error fault ∧ e = fault.toFailure grammar.family (strip line) := by
  rw [Record.ofLine_result] at h
  cases hsplit : splitLine (strip line) with
  | error f =>
    left
    rw [hsplit] at h
    obtain rfl : f = e := Except.error.inj h
    unfold splitLine at hsplit
    split at hsplit
    · cases hsplit
    · exact (Except.error.inj hsplit).symm
  | ok parts =>
    right
    obtain ⟨tag, value⟩ := parts
    rw [hsplit, Except.bind] at h
    unfold Record.ofParts at h
    split at h
    · cases h
    · rename_i grammar _
      split at h
      · cases h
      · rename_i fault hread
        exact ⟨tag, value, grammar, fault, rfl, hread, (Except.error.inj h).symm⟩

/-! ## The records of many lines -/

theorem readRecords_cons_of_short {line : String} (h : hasTwoFields line = false) (lines : List String) :
    readRecords (line :: lines) = readRecords lines := by
  simp [readRecords, h]

theorem readRecords_cons_of_reads {line : String} {r : Record} (h : Reads line r) (lines : List String) :
    readRecords (line :: lines) = (readRecords lines).map (r :: ·) := by
  have hr : (Record.ofLine line).result = .ok r := h
  rw [readRecords, List.filter_cons_of_pos h.hasTwoFields, List.mapM_cons, hr, readRecords]
  cases (lines.filter ProxyLog.hasTwoFields).mapM fun line => (Record.ofLine line).result <;> rfl

/-- The first of some lines is too short for a record, or it is read as the first record. -/
theorem readRecords_cons_eq_ok {line : String} {lines : List String} {rs : List Record}
    (h : readRecords (line :: lines) = .ok rs) :
    (hasTwoFields line = false ∧ readRecords lines = .ok rs) ∨
      ∃ r rest, Reads line r ∧ readRecords lines = .ok rest ∧ rs = r :: rest := by
  cases hfields : hasTwoFields line with
  | false =>
    rw [readRecords_cons_of_short hfields] at h
    exact Or.inl ⟨rfl, h⟩
  | true =>
    right
    cases hr : (Record.ofLine line).result with
    | error e =>
      rw [readRecords, List.filter_cons_of_pos hfields, List.mapM_cons, hr] at h
      cases h
    | ok r =>
      rw [readRecords_cons_of_reads hr] at h
      obtain ⟨rest, hrest, rfl⟩ := exists_of_map_eq_ok h
      exact ⟨r, rest, hr, hrest, rfl⟩

theorem readRecords_append {front back : List String} {rs qs : List Record} (hfront : readRecords front = .ok rs)
    (hback : readRecords back = .ok qs) : readRecords (front ++ back) = .ok (rs ++ qs) := by
  induction front generalizing rs with
  | nil =>
    cases hfront
    exact hback
  | cons line front ih =>
    rcases readRecords_cons_eq_ok hfront with ⟨hshort, hrs⟩ | ⟨r, rest, hr, hrest, rfl⟩
    · rw [List.cons_append, readRecords_cons_of_short hshort, ih hrs]
    · rw [List.cons_append, readRecords_cons_of_reads hr, ih hrest]
      rfl

theorem reads_of_readRecords {lines : List String} {rs : List Record} (h : readRecords lines = .ok rs) :
    ∀ r ∈ rs, Reads r.line r := by
  induction lines generalizing rs with
  | nil =>
    cases h
    intro r hr
    cases hr
  | cons line lines ih =>
    rcases readRecords_cons_eq_ok h with ⟨-, hrs⟩ | ⟨q, rest, hq, hrest, rfl⟩
    · exact ih hrs
    · intro r hr
      rcases List.mem_cons.mp hr with rfl | hr
      · exact hq.self
      · exact ih hrest r hr

theorem map_line_of_readRecords {lines : List String} {rs : List Record} (h : readRecords lines = .ok rs)
    (htrim : ∀ line ∈ lines, strip line = line) : rs.map (·.line) = lines.filter hasTwoFields := by
  induction lines generalizing rs with
  | nil =>
    cases h
    rfl
  | cons line lines ih =>
    have htrim' : ∀ l ∈ lines, strip l = l := fun l hl => htrim l (List.mem_cons_of_mem _ hl)
    rcases readRecords_cons_eq_ok h with ⟨hshort, hrs⟩ | ⟨q, rest, hq, hrest, rfl⟩
    · rw [ih hrs htrim', List.filter_cons, if_neg (by simp [hshort])]
    · rw [List.map_cons, ih hrest htrim', hq.line_eq, htrim line List.mem_cons_self,
        List.filter_cons_of_pos hq.hasTwoFields]

theorem readRecords_filter (lines : List String) : readRecords (lines.filter hasTwoFields) = readRecords lines := by
  simp [readRecords, List.filter_filter]

end ProxyLog
