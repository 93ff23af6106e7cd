import ProxyLog.Proofs.Log.Delivery
import ProxyLog.Proofs.Text.Lines

/-!
# The ways a text comes in

A text is cut at every line boundary when it is there as a whole, and at line feeds only when it arrives as a
stream. The two readings differ where another boundary stands inside a line.

* `Phase.deliverAll_padded`: blank lines behind a line change nothing, unless it is a start line.
* `BreaksWell line`: boundaries are among the blanks at the end of the line only, and a start line has none;
  `readStream_eq_readText`: texts of such lines are read alike.
* `readStream_agrees`: this, and that line feeds are the only boundaries that do not matter anywhere.
-/

set_option autoImplicit false

namespace ProxyLog

open Text

/-! ## Blank lines -/

namespace Phase

theorem deliverAll_empties {p : Phase} (h : ∀ t, p ≠ .started t) {blanks : List String}
    (hblanks : ∀ b ∈ blanks, b = "") (rest : List String) : p.deliverAll (blanks ++ rest) = p.deliverAll rest := by
  induction blanks with
  | nil => rfl
  | cons b blanks ih =>
    obtain ⟨rfl, hrest⟩ := List.forall_mem_cons.mp hblanks
    rw [List.cons_append, deliverAll_empty_cons h, ih hrest]

/-- The pieces of a line are read as the line is, unless it is a start line with a boundary at its end. -/
theorem deliverAll_padded {line : String} {pieces : List String} (h : Padded line pieces)
    (hstart : isStartLine line = true → IsOneLine line) (p : Phase) (rest : List String) :
    p.deliverAll (pieces.map strip ++ rest) = p.deliverAll (strip line :: rest) := by
  obtain ⟨first, blanks, rfl, hfirst, hblanks, hone⟩ := h
  rw [List.map_cons, List.cons_append, hfirst]
  cases hd : p.deliver (strip line) with
  | error e => rw [deliverAll_cons_of_error hd, deliverAll_cons_of_error hd]
  | ok d =>
    rw [deliverAll_cons_of_ok hd, deliverAll_cons_of_ok hd]
    congr 1
    by_cases hphase : ∃ t, d.phase = .started t
    · obtain ⟨t, ht⟩ := hphase
      have hline := isStartLine_of_started hd ht
      rw [isStartLine_strip] at hline
      rw [hone (hstart hline)]
      rfl
    · exact deliverAll_empties (not_exists.mp hphase) (List.forall_mem_map.mpr hblanks) rest

theorem deliverAll_flatten {lines : List String} {groups : List (List String)}
    (h : List.Forall₂ Padded lines groups) (hstart : ∀ line ∈ lines, isStartLine line = true → IsOneLine line)
    (p : Phase) : p.deliverAll (groups.flatten.map strip) = p.deliverAll (lines.map strip) := by
  induction h generalizing p with
  | nil => rfl
  | @cons line pieces lines groups hline _ ih =>
    obtain ⟨hfirst, hrest⟩ := List.forall_mem_cons.mp hstart
    rw [List.flatten_cons, List.map_append, deliverAll_padded hline hfirst, deliverAll_cons, List.map_cons,
      deliverAll_cons]
    congr 1
    funext d
    rw [ih hrest]

end Phase

/-! ## Texts that are read alike -/

/-- The line breaks at its end only, and not at all if it is a start line. -/
def BreaksWell (line : String) : Prop := BreaksAtEnd line ∧ (isStartLine line = true → IsOneLine line)

instance (line : String) : Decidable (BreaksWell line) := inferInstanceAs (Decidable (_ ∧ _))

theorem Text.IsOneLine.breaksWell {line : String} (h : IsOneLine line) : BreaksWell line :=
  ⟨h.breaksAtEnd, fun _ => h⟩

theorem readStream_eq_readText (maxDepth : Int) {text : String} (hreturn : '\r' ∉ text.toList)
    (h : ∀ line ∈ feedLines text, BreaksWell line) :
    (readStream maxDepth text).result = (readText maxDepth text).result := by
  obtain ⟨groups, hgroups, hlines⟩ := exists_pieces hreturn fun line hline => (h line hline).1
  have hdeliver := Phase.deliverAll_flatten hgroups (fun line hline => (h line hline).2) .between
  rw [readStream, readText, hlines, readLines_eq_deliverAll, readLines_eq_deliverAll, hdeliver]

theorem isOneLine_of_mem_feedLines {text line : String}
    (h : ∀ c ∈ text.toList, isLineEnd c = true → c = '\n') (hline : line ∈ feedLines text) :
    IsOneLine line := by
  obtain ⟨piece, hpiece, rfl⟩ := List.mem_map.mp hline
  intro c hc
  rw [String.toList_ofList] at hc
  obtain ⟨hmem, hfeed⟩ := mem_cutAt hpiece c hc
  by_contra hend
  exact of_decide_eq_false hfeed (h c hmem (by simpa using hend))

/-! ## Texts that are not -/

/-- The lines of a transaction. -/
def unpartedLines : List String := ["*  << Request  >> 1", "-  Begin  req 0 rxreq", "-  End"]

/-- The same, with some character behind each line. -/
def partedText (c : Char) : String := String.ofList (unpartedLines.flatMap fun line => line.toList ++ [c])

theorem toList_partedText (c : Char) :
    (partedText c).toList = unpartedLines.flatMap fun line => line.toList ++ [c] := String.toList_ofList

theorem isOneLine_of_mem_unpartedLines : ∀ line ∈ unpartedLines, IsOneLine line := by decide +kernel

theorem mem_partedText {c d : Char} (hd : d ∈ (partedText c).toList) (hend : isLineEnd d = true) : d = c := by
  rw [toList_partedText] at hd
  obtain ⟨line, hline, hmem⟩ := List.mem_flatMap.mp hd
  rcases List.mem_append.mp hmem with hmem | hmem
  · rw [isOneLine_of_mem_unpartedLines line hline d hmem] at hend
    cases hend
  · exact List.mem_singleton.mp hmem

theorem lines_partedText {c : Char} (hc : isLineEnd c = true) : lines (partedText c) = unpartedLines := by
  by_cases hreturn : c = '\r'
  · subst hreturn
    decide +kernel
  · have hmem : '\r' ∉ (partedText c).toList := fun hmem => hreturn (mem_partedText hmem rfl).symm
    rw [lines, joinLineEnds_of_not_mem hmem, toList_partedText, cutAt_flatMap hc isOneLine_of_mem_unpartedLines,
      List.map_map]
    simp

/-- As a stream the text is one line, and this has too many fields to start a transaction. -/
theorem feedLines_partedText {c : Char} (hc : c ≠ '\n') : feedLines (partedText c) = [partedText c] := by
  have hne : (partedText c).toList ≠ [] := by
    rw [toList_partedText]
    simp [unpartedLines]
  have hfeed : ∀ d ∈ (partedText c).toList, decide (d = '\n') = false := by
    intro d hd
    refine decide_eq_false ?_
    rintro rfl
    exact hc (mem_partedText hd rfl).symm
  rw [feedLines, cutAt_eq_singleton hne hfeed, List.map_singleton, String.ofList_toList]

theorem isStartLine_partedText {c : Char} (hc : isLineEnd c = true) : isStartLine (partedText c) = false := by
  have hblank := isBlank_of_isLineEnd hc
  have hwords : wordsOf (partedText c).toList = unpartedLines.flatMap fun line => wordsOf line.toList := by
    rw [toList_partedText]
    simp only [unpartedLines, List.flatMap_cons, List.append_assoc, List.singleton_append,
      wordsOf_append_cons hblank]
    rfl
  rw [isStartLine, hwords]
  rfl

theorem readStream_partedText {c : Char} (hc : isLineEnd c = true) (hfeed : c ≠ '\n') (maxDepth : Int) :
    (readStream maxDepth (partedText c)).result = .ok (.ofList maxDepth []) := by
  refine readLines_eq_ok_iff.mpr ⟨[], ?_, rfl⟩
  have hnoise : isStartLine (strip (partedText c)) = false := by
    rw [isStartLine_strip, isStartLine_partedText hc]
  rw [feedLines_partedText hfeed, List.map_singleton,
    Phase.deliverAll_cons_of_ok (Phase.deliver_between_of_not_start hnoise)]
  rfl

theorem readText_partedText {c : Char} (hc : isLineEnd c = true) (maxDepth : Int) :
    ∃ t, (readText maxDepth (partedText c)).result = .ok (.ofList maxDepth [t]) := by
  rw [readText, lines_partedText hc]
  exact ⟨_, rfl⟩

/-- Texts without carriage returns whose lines break well are read alike in both ways. Of the characters that
end lines, line feeds are the only ones that every text may hold. -/
theorem readStream_agrees (allowed : Char → Prop) :
    (∀ maxDepth text, '\r' ∉ text.toList → (∀ line ∈ feedLines text, BreaksWell line) →
      (readStream maxDepth text).result = (readText maxDepth text).result) ∧
    ((∀ maxDepth text, (∀ c ∈ text.toList, isLineEnd c = true → allowed c) →
        (readStream maxDepth text).result = (readText maxDepth text).result) ↔
      ∀ c, isLineEnd c = true → allowed c → c = '\n') := by
  refine ⟨fun maxDepth text => readStream_eq_readText maxDepth, ?_, ?_⟩
  · intro h c hend hc
    by_contra hne
    have hsame := h 0 (partedText c) fun d hd hdend => by rwa [mem_partedText hd hdend]
    obtain ⟨t, ht⟩ := readText_partedText hend 0
    rw [readStream_partedText hend hne, ht] at hsame
    cases hsame
  · intro h maxDepth text hallowed
    have hfeed : ∀ c ∈ text.toList, isLineEnd c = true → c = '\n' :=
      fun c hc hend => h c hend (hallowed c hc hend)
    have hreturn : '\r' ∉ text.toList := fun hmem => absurd (hfeed '\r' hmem rfl) (by decide)
    exact readStream_eq_readText maxDepth hreturn fun line hline => (isOneLine_of_mem_feedLines hfeed hline).breaksWell

/-- A form feed stands behind a header. -/
def fedText : String := "**  << Request  >> 2\n--  Begin  req 1 rxreq\n--  ReqHeader  A: b \x0c\n--  End\n"

theorem readStream_agrees_fed :
    '\r' ∉ fedText.toList ∧ (∀ line ∈ feedLines fedText, BreaksWell line) ∧
      (readStream 100 fedText).result = (readText 100 fedText).result := by
  have hreturn : '\r' ∉ fedText.toList := by decide +kernel
  have hbreaks : ∀ line ∈ feedLines fedText, BreaksWell line := by decide +kernel
  exact ⟨hreturn, hbreaks, (readStream_agrees (· = '\n')).1 100 fedText hreturn hbreaks⟩

/-- A vertical tab stands within a header. -/
def tabbedText : String := "**  << Request  >> 2\n--  Begin  req 1 rxreq\n--  ReqHeader  A: b\x0bc\n--  End\n"

/-- What the transactions that are read tell of a request header. -/
def requestHeaderRead (o : Outcome Failure TransactionSet) (name : String) : Option (List String) :=
  o.result.toOption.map fun ts => ts.toList.map fun t => t.requestHeaders.first name true

/-- The header goes on behind the vertical tab, or it ends there. -/
theorem readStream_ne_readText : ¬ ∀ maxDepth text, '\r' ∉ text.toList →
    (readStream maxDepth text).result = (readText maxDepth text).result := by
  intro h
  have hsame := h 100 tabbedText (by decide +kernel)
  have hstream : requestHeaderRead (readStream 100 tabbedText) "A" = some ["b\x0bc"] := by decide +kernel
  have htext : requestHeaderRead (readText 100 tabbedText) "A" = some ["b"] := by decide +kernel
  rw [requestHeaderRead, hsame, ← requestHeaderRead, htext] at hstream
  exact absurd hstream (by decide)

end ProxyLog
