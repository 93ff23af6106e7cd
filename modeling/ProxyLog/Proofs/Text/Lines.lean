import ProxyLog.Proofs.Text.Blank
import ProxyLog.Text.Lines

/-!
# Lines of a text

* `IsOneLine s`: the text has no line boundary; `isOneLine_of_mem_lines`: the lines of a text are such texts.
* `cutAt_eq_cons`: what a text is cut into, from its first cut on.
* `textOf ls`, `lines_textOf`: lines that are each closed by a line feed come back as they are.
* `BreaksAtEnd s`: line boundaries are among the blanks at the end of the text only; `exists_pieces`: such feed
  lines are cut into themselves and blank lines.
-/

set_option autoImplicit false

namespace ProxyLog.Text

/-- The text has no line boundary. -/
def IsOneLine (s : String) : Prop := ∀ c ∈ s.toList, isLineEnd c = false

instance (s : String) : Decidable (IsOneLine s) := List.decidableBAll ..

theorem isOneLine_empty : IsOneLine "" := by
  intro c hc
  cases hc

theorem IsOneLine.strip {s : String} (h : IsOneLine s) : IsOneLine (strip s) := by
  intro c hc
  rw [toList_strip] at hc
  have hstart : c ∈ trimStart s.toList := (trimEnd_prefix_self _).subset hc
  exact h c ((List.dropWhile_sublist isBlank).subset hstart)

theorem isBlank_of_isLineEnd {c : Char} (h : isLineEnd c = true) : isBlank c = true := by
  simp only [isLineEnd, isBlank, Bool.or_eq_true, Bool.and_eq_true, decide_eq_true_eq, beq_iff_eq] at h ⊢
  omega

/-! ## Pieces -/

/-- The first piece goes up to the first cut, and the others are those of the text behind it. -/
theorem cutAt_eq_cons (p : Char → Bool) {cs : List Char} (h : cs ≠ []) :
    cutAt p cs = cs.takeWhile (!p ·) :: cutAt p (cs.dropWhile (!p ·)).tail := by
  induction cs with
  | nil => exact absurd rfl h
  | cons c cs ih =>
    cases hc : p c with
    | true => simp [hc]
    | false =>
      cases cs with
      | nil => simp [hc, consPiece]
      | cons d cs =>
        have htake : (c :: d :: cs).takeWhile (!p ·) = c :: (d :: cs).takeWhile (!p ·) :=
          List.takeWhile_cons_of_pos (by simp [hc])
        have hdrop : (c :: d :: cs).dropWhile (!p ·) = (d :: cs).dropWhile (!p ·) :=
          List.dropWhile_cons_of_pos (by simp [hc])
        rw [cutAt_cons, if_neg (by simp [hc]), ih (List.cons_ne_nil d cs), htake, hdrop]
        rfl

theorem cutAt_eq_singleton {p : Char → Bool} {cs : List Char} (hne : cs ≠ []) (h : ∀ c ∈ cs, p c = false) :
    cutAt p cs = [cs] := by
  have hall : ∀ c ∈ cs, (!p c) = true := fun c hc => by rw [h c hc, Bool.not_false]
  rw [cutAt_eq_cons p hne, List.takeWhile_eq_self_iff.mpr hall, List.dropWhile_eq_nil_iff.mpr hall]
  rfl

theorem cutAt_append {p : Char → Bool} {c : Char} (hc : p c = true) (front rest : List Char) :
    cutAt p (front ++ c :: rest) = cutAt p (front ++ [c]) ++ cutAt p rest := by
  induction front with
  | nil => simp [hc]
  | cons x front ih =>
    rw [List.cons_append, List.cons_append, cutAt_cons, cutAt_cons, ih]
    split
    · rfl
    · rw [cutAt_eq_cons p (show front ++ [c] ≠ [] by simp)]
      rfl

/-- A piece holds characters of the text, and none that the text is cut at. -/
theorem mem_cutAt {p : Char → Bool} {cs piece : List Char} (h : piece ∈ cutAt p cs) :
    ∀ c ∈ piece, c ∈ cs ∧ p c = false := by
  induction hn : cs.length using Nat.strong_induction_on generalizing cs with
  | _ n ih =>
    subst hn
    by_cases hcs : cs = []
    · rw [hcs] at h
      cases h
    · rw [cutAt_eq_cons p hcs] at h
      rcases List.mem_cons.mp h with rfl | h
      · intro c hc
        exact ⟨(List.takeWhile_sublist _).subset hc, by simpa using List.mem_takeWhile_imp hc⟩
      · have hle : (cs.dropWhile (!p ·)).length ≤ cs.length := (List.dropWhile_sublist _).length_le
        have hpos := List.length_pos_iff.mpr hcs
        intro c hc
        obtain ⟨hmem, hcut⟩ := ih _ (by rw [List.length_tail]; omega) h rfl c hc
        exact ⟨(List.dropWhile_sublist _).subset (List.mem_of_mem_tail hmem), hcut⟩

theorem isOneLine_of_mem_lines {text line : String} (h : line ∈ lines text) : IsOneLine line := by
  obtain ⟨piece, hpiece, rfl⟩ := List.mem_map.mp h
  intro c hc
  rw [String.toList_ofList] at hc
  exact (mem_cutAt hpiece c hc).2

/-! ## Lines put together -/

/-- The text of lines, each closed by a line feed. -/
def textOf (ls : List String) : String := String.join (ls.map (· ++ "\n"))

theorem textOf_append (front back : List String) : textOf (front ++ back) = textOf front ++ textOf back := by
  simp [textOf]

theorem toList_textOf (ls : List String) : (textOf ls).toList = ls.flatMap fun l => l.toList ++ ['\n'] := by
  simp [textOf, List.flatMap_map]

theorem cutAt_flatMap {p : Char → Bool} {c : Char} (hc : p c = true) {ls : List String}
    (h : ∀ l ∈ ls, ∀ x ∈ l.toList, p x = false) :
    cutAt p (ls.flatMap fun l => l.toList ++ [c]) = ls.map String.toList := by
  induction ls with
  | nil => rfl
  | cons l ls ih =>
    obtain ⟨hl, hls⟩ := List.forall_mem_cons.mp h
    rw [List.flatMap_cons, List.append_assoc, List.singleton_append, cutAt_append_cons hc l.toList hl, ih hls,
      List.map_cons]

theorem lines_textOf {ls : List String} (h : ∀ l ∈ ls, IsOneLine l) : lines (textOf ls) = ls := by
  have hreturn : '\r' ∉ ls.flatMap fun l => l.toList ++ ['\n'] := by
    intro hmem
    obtain ⟨l, hl, hc⟩ := List.mem_flatMap.mp hmem
    rcases List.mem_append.mp hc with hc | hc
    · exact absurd (h l hl '\r' hc) (by decide)
    · exact absurd hc (by decide)
  rw [lines, toList_textOf, joinLineEnds_of_not_mem hreturn, cutAt_flatMap rfl h, List.map_map]
  simp

/-! ## Lines cut further -/

/-- Line boundaries are among the blanks at the end of the text only. -/
def BreaksAtEnd (s : String) : Prop := ∀ c ∈ trimEnd s.toList, isLineEnd c = false

instance (s : String) : Decidable (BreaksAtEnd s) := List.decidableBAll ..

theorem IsOneLine.breaksAtEnd {s : String} (h : IsOneLine s) : BreaksAtEnd s :=
  fun c hc => h c ((trimEnd_prefix_self _).subset hc)

/-- The pieces are the line and blank lines behind it, of which there are none without a boundary. -/
def Padded (line : String) (pieces : List String) : Prop :=
  ∃ first blanks, pieces = first :: blanks ∧ strip first = strip line ∧ (∀ b ∈ blanks, strip b = "") ∧
    (IsOneLine line → blanks = [])

theorem strip_ofList_of_blank {cs : List Char} (h : ∀ c ∈ cs, isBlank c = true) :
    strip (String.ofList cs) = "" := by
  rw [strip, String.toList_ofList, trim_of_blank h]

/-- A line that is cut at every boundary, with its line feed or, at the end of the text, without it. -/
theorem padded_cutAt {line feed : List Char} (hline : BreaksAtEnd (String.ofList line))
    (hfeed : feed = [] ∨ feed = ['\n']) (hne : line ++ feed ≠ []) :
    Padded (String.ofList line) ((cutAt isLineEnd (line ++ feed)).map String.ofList) := by
  have hblank : ∀ c ∈ feed, isBlank c = true := by
    intro c hc
    rcases hfeed with rfl | rfl
    · cases hc
    · rw [List.mem_singleton.mp hc]
      rfl
  obtain ⟨back, hsplit, hback⟩ := exists_trimEnd_append line
  rw [BreaksAtEnd, String.toList_ofList] at hline
  -- The first piece takes all of the line but some of the blanks at its end.
  have htake : (line ++ feed).takeWhile (!isLineEnd ·) =
      trimEnd line ++ (back ++ feed).takeWhile (!isLineEnd ·) := by
    conv_lhs => rw [hsplit, List.append_assoc]
    exact List.takeWhile_append_of_pos fun c hc => by simp [hline c hc]
  have hdrop : (line ++ feed).dropWhile (!isLineEnd ·) = (back ++ feed).dropWhile (!isLineEnd ·) := by
    conv_lhs => rw [hsplit, List.append_assoc]
    exact List.dropWhile_append_of_pos fun c hc => by simp [hline c hc]
  have hrest : ∀ c ∈ back ++ feed, isBlank c = true := List.forall_mem_append.mpr ⟨hback, hblank⟩
  rw [cutAt_eq_cons _ hne, htake, hdrop, List.map_cons]
  refine ⟨_, _, rfl, ?_, ?_, ?_⟩
  · have hfirst : ∀ c ∈ (back ++ feed).takeWhile (!isLineEnd ·), isBlank c = true :=
      fun c hc => hrest c ((List.takeWhile_sublist _).subset hc)
    rw [strip, strip, String.toList_ofList, String.toList_ofList, trim_append_of_blank hfirst,
      ← trim_append_of_blank hback, ← hsplit]
  · intro b hb
    obtain ⟨piece, hpiece, rfl⟩ := List.mem_map.mp hb
    refine strip_ofList_of_blank fun c hc => hrest c ?_
    exact (List.dropWhile_sublist _).subset (List.mem_of_mem_tail (mem_cutAt hpiece c hc).1)
  · intro hone
    rw [IsOneLine, String.toList_ofList, hsplit, List.forall_mem_append] at hone
    have hnil : ((back ++ feed).dropWhile (!isLineEnd ·)).tail = [] := by
      rw [List.dropWhile_append_of_pos fun c hc => by simp [hone.2 c hc]]
      rcases hfeed with rfl | rfl <;> rfl
    rw [hnil]
    rfl

/-- Cut at every boundary, a text falls into what its feed lines fall into. -/
theorem exists_groups {cs : List Char} (h : ∀ line ∈ cutAt (· = '\n') cs, BreaksAtEnd (String.ofList line)) :
    ∃ groups, List.Forall₂ Padded ((cutAt (· = '\n') cs).map String.ofList) groups ∧
      (cutAt isLineEnd cs).map String.ofList = groups.flatten := by
  induction hn : cs.length using Nat.strong_induction_on generalizing cs with
  | _ n ih =>
    subst hn
    by_cases hfeed : '\n' ∈ cs
    · obtain ⟨line, rest, rfl, hline⟩ := List.eq_append_cons_of_mem hfeed
      have hcut : cutAt (· = '\n') (line ++ '\n' :: rest) = line :: cutAt (· = '\n') rest :=
        cutAt_append_cons (by decide) line (fun c hc => decide_eq_false (ne_of_mem_of_not_mem hc hline)) rest
      rw [hcut] at h ⊢
      obtain ⟨hbreaks, hrest⟩ := List.forall_mem_cons.mp h
      have hlength : rest.length < (line ++ '\n' :: rest).length := by
        rw [List.length_append, List.length_cons]
        omega
      obtain ⟨groups, hgroups, hflat⟩ := ih _ hlength hrest rfl
      refine ⟨_, .cons (padded_cutAt hbreaks (Or.inr rfl) (by simp)) hgroups, ?_⟩
      rw [cutAt_append rfl, List.map_append, hflat, List.flatten_cons]
    · by_cases hcs : cs = []
      · subst hcs
        exact ⟨[], .nil, rfl⟩
      · have hcut : cutAt (· = '\n') cs = [cs] :=
          cutAt_eq_singleton hcs fun c hc => decide_eq_false (ne_of_mem_of_not_mem hc hfeed)
        rw [hcut] at h ⊢
        have hpadded := padded_cutAt (h cs List.mem_cons_self) (Or.inl rfl) (by simpa using hcs)
        rw [List.append_nil] at hpadded
        exact ⟨_, .cons hpadded .nil, (List.flatten_singleton).symm⟩

theorem exists_pieces {text : String} (hreturn : '\r' ∉ text.toList)
    (h : ∀ line ∈ feedLines text, BreaksAtEnd line) :
    ∃ groups, List.Forall₂ Padded (feedLines text) groups ∧ lines text = groups.flatten := by
  rw [lines, joinLineEnds_of_not_mem hreturn]
  exact exists_groups (List.forall_mem_map.mp h)

end ProxyLog.Text
