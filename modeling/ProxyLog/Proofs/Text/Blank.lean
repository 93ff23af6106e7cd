import Mathlib.Data.List.DropRight
import ProxyLog.Text.Blank

/-!
# Trimmed texts and their words

* `trim_trim`, `strip_strip`: a trimmed text has nothing left to trim; `trim_eq_self` tells one by its ends.
* `firstWord_append`, `afterWord_append`: a blank-free text in front of a blank is the first word.
* `wordsOf_append_cons`: a blank parts the words in front of it from those behind it.
* `wordsOf_trim`, `words_strip`: blanks at the ends of a text do not change its words.
* `isBlank_of_mem_wordsOf`: a word holds no blank.
* `mem_wordsOf_of_afterWord`: the words behind the first one are words of the text.
-/

set_option autoImplicit false

namespace ProxyLog.Text

/-! ## Trimming -/

theorem trimStart_cons_of_not_blank {c : Char} (h : isBlank c = false) (cs : List Char) :
    trimStart (c :: cs) = c :: cs := by
  simp [trimStart, h]

theorem isBlank_head_of_trimStart {c : Char} {cs rest : List Char} (h : trimStart cs = c :: rest) :
    isBlank c = false := by
  have hne : cs.dropWhile isBlank ≠ [] := by
    intro hnil
    rw [trimStart, hnil] at h
    cases h
  have hhead := List.head_dropWhile_not isBlank hne
  simpa [show cs.dropWhile isBlank = c :: rest from h] using hhead

theorem trimEnd_prefix_self (cs : List Char) : trimEnd cs <+: cs := List.rdropWhile_prefix isBlank cs

/-- The text is its trimmed beginning and blanks. -/
theorem exists_trimEnd_append (cs : List Char) :
    ∃ bs, cs = trimEnd cs ++ bs ∧ ∀ c ∈ bs, isBlank c = true :=
  ⟨_, (List.rdropWhile_append_rtakeWhile (p := isBlank)).symm, fun _ h => List.mem_rtakeWhile_imp h⟩

theorem trimStart_trim (cs : List Char) : trimStart (trim cs) = trim cs := by
  cases htrim : trim cs with
  | nil => rfl
  | cons c rest =>
    -- The first character of the trimmed text is the first one behind the blanks in front.
    obtain ⟨tail, htail⟩ := trimEnd_prefix_self (trimStart cs)
    rw [← trim, htrim] at htail
    exact trimStart_cons_of_not_blank (isBlank_head_of_trimStart htail.symm) rest

@[simp] theorem trim_trim (cs : List Char) : trim (trim cs) = trim cs := by
  rw [trim, trimStart_trim]
  exact List.rdropWhile_idempotent isBlank _

theorem trim_append_of_blank {bs : List Char} (h : ∀ c ∈ bs, isBlank c = true) (cs : List Char) :
    trim (cs ++ bs) = trim cs := by
  have hend : ∀ xs : List Char, trimEnd (xs ++ bs) = trimEnd xs := by
    intro xs
    have hbs : bs.reverse.dropWhile isBlank = [] :=
      List.dropWhile_eq_nil_iff.mpr fun c hc => h c (List.mem_reverse.mp hc)
    rw [trimEnd, dropTrailing, List.reverse_append, List.dropWhile_append, hbs]
    rfl
  rw [trim, trimStart, List.dropWhile_append]
  split
  · rename_i hcs
    have hnil : trimStart bs = [] := List.dropWhile_eq_nil_iff.mpr h
    rw [trim, trimStart, List.isEmpty_iff.mp hcs, ← trimStart, hnil]
  · exact hend _

theorem trimStart_append_of_blank {bs : List Char} (h : ∀ c ∈ bs, isBlank c = true) (cs : List Char) :
    trimStart (bs ++ cs) = trimStart cs :=
  List.dropWhile_append_of_pos h

theorem trimStart_eq_self {cs : List Char} (h : ∀ c ∈ cs.head?, isBlank c = false) : trimStart cs = cs := by
  cases cs with
  | nil => rfl
  | cons c cs => exact trimStart_cons_of_not_blank (h c rfl) cs

theorem trim_eq_self {cs : List Char} (hfirst : ∀ c ∈ cs.head?, isBlank c = false)
    (hlast : ∀ c ∈ cs.getLast?, isBlank c = false) : trim cs = cs := by
  rw [trim, trimStart_eq_self hfirst]
  refine List.rdropWhile_eq_self_iff.mpr fun hne => ?_
  simp [hlast _ (List.getLast?_eq_some_getLast hne)]

theorem trim_of_blank {bs : List Char} (h : ∀ c ∈ bs, isBlank c = true) : trim bs = [] :=
  trim_append_of_blank h []

theorem toList_strip (s : String) : (strip s).toList = trim s.toList := by
  simp [strip]

@[simp] theorem strip_strip (s : String) : strip (strip s) = strip s := by
  simp [strip]

theorem strip_of_mem_map_strip (lines : List String) : ∀ line ∈ lines.map strip, strip line = line := by
  intro line hline
  obtain ⟨raw, -, rfl⟩ := List.mem_map.mp hline
  exact strip_strip raw

/-! ## Words -/

theorem firstWord_append {w back : List Char} (hw : ∀ c ∈ w, isBlank c = false)
    (hback : ∀ c ∈ back.head?, isBlank c = true) : firstWord (w ++ back) = w := by
  have hstop : back.takeWhile (fun c => !isBlank c) = [] := by
    cases back with
    | nil => rfl
    | cons b back => simp [hback b rfl]
  rw [firstWord, List.takeWhile_append_of_pos (by simpa using hw), hstop, List.append_nil]

theorem afterWord_append {w back : List Char} (hw : ∀ c ∈ w, isBlank c = false)
    (hback : ∀ c ∈ back.head?, isBlank c = true) : afterWord (w ++ back) = trimStart back := by
  have hstop : back.dropWhile (fun c => !isBlank c) = back := by
    cases back with
    | nil => rfl
    | cons b back => simp [hback b rfl]
  rw [afterWord, List.dropWhile_append_of_pos (by simpa using hw), hstop]

theorem all_isBlank_head_of_wordsOf_nil {cs : List Char} (h : wordsOf cs = []) :
    cs.head?.all isBlank = true := by
  cases cs with
  | nil => rfl
  | cons c cs =>
    cases hc : isBlank c with
    | true => exact hc
    | false =>
      rw [wordsOf_cons hc] at h
      cases h

/-- A blank parts the words in front of it from those behind it. -/
theorem wordsOf_append_cons {b : Char} (h : isBlank b = true) (front back : List Char) :
    wordsOf (front ++ b :: back) = wordsOf front ++ wordsOf back := by
  induction front with
  | nil => exact wordsOf_cons_blank h back
  | cons c front ih =>
    have hnext : (front ++ b :: back).head?.all isBlank = front.head?.all isBlank := by
      cases front with
      | nil => simp [h]
      | cons d ds => rfl
    rw [List.cons_append, wordsOf, wordsOf, ih, hnext]
    split
    · rfl
    · split
      · rfl
      · rename_i hall
        -- The first word goes on, so there is one.
        cases hwords : wordsOf front with
        | nil => exact absurd (all_isBlank_head_of_wordsOf_nil hwords) hall
        | cons w ws => rfl

theorem wordsOf_append_of_blank {bs : List Char} (h : ∀ c ∈ bs, isBlank c = true) (cs : List Char) :
    wordsOf (cs ++ bs) = wordsOf cs := by
  cases bs with
  | nil => rw [List.append_nil]
  | cons b bs =>
    obtain ⟨hb, hrest⟩ := List.forall_mem_cons.mp h
    have hnil : trimStart bs = [] := List.dropWhile_eq_nil_iff.mpr hrest
    rw [wordsOf_append_cons hb, ← wordsOf_trimStart bs, hnil]
    exact List.append_nil _

theorem wordsOf_trimEnd (cs : List Char) : wordsOf (trimEnd cs) = wordsOf cs := by
  obtain ⟨bs, hcs, hbs⟩ := exists_trimEnd_append cs
  have h := wordsOf_append_of_blank hbs (trimEnd cs)
  rw [← hcs] at h
  exact h.symm

theorem wordsOf_trim (cs : List Char) : wordsOf (trim cs) = wordsOf cs := by
  rw [trim, wordsOf_trimEnd, wordsOf_trimStart]

theorem words_strip (s : String) : words (strip s) = words s := by
  rw [words, toList_strip, wordsOf_trim, words]

theorem isBlank_of_mem_wordsOf {cs w : List Char} (h : w ∈ wordsOf cs) : ∀ c ∈ w, isBlank c = false := by
  induction cs generalizing w with
  | nil => cases h
  | cons d cs ih =>
    rw [wordsOf] at h
    split at h
    · exact ih h
    · rename_i hd
      have hd : isBlank d = false := by simpa using hd
      split at h
      · rcases List.mem_cons.mp h with rfl | h
        · simpa using hd
        · exact ih h
      · cases hwords : wordsOf cs with
        | nil =>
          rw [hwords] at h
          cases h
        | cons v vs =>
          rw [hwords] at h ih
          rcases List.mem_cons.mp h with rfl | h
          · intro c hc
            rcases List.mem_cons.mp hc with rfl | hc
            · exact hd
            · exact ih List.mem_cons_self c hc
          · exact ih (List.mem_cons_of_mem _ h)

theorem wordsOf_of_not_blank {cs : List Char} (hne : cs ≠ []) (h : ∀ c ∈ cs, isBlank c = false) :
    wordsOf cs = [cs] := by
  have hspan : ∀ c ∈ cs, (!isBlank c) = true := by simpa using h
  cases cs with
  | nil => exact absurd rfl hne
  | cons c cs =>
    have hfirst : firstWord (c :: cs) = c :: cs := List.takeWhile_eq_self_iff.mpr hspan
    have hrest : (c :: cs).dropWhile (fun c => !isBlank c) = [] := List.dropWhile_eq_nil_iff.mpr hspan
    rw [wordsOf_cons (h c List.mem_cons_self), hfirst, afterWord, hrest]
    rfl

theorem mem_wordsOf_of_afterWord {cs w : List Char} (h : w ∈ wordsOf (afterWord cs)) : w ∈ wordsOf cs := by
  cases cs with
  | nil => exact h
  | cons c cs =>
    cases hc : isBlank c with
    | false =>
      rw [wordsOf_cons hc]
      exact List.mem_cons_of_mem _ h
    | true =>
      have hafter : afterWord (c :: cs) = trimStart (c :: cs) := by simp [afterWord, hc]
      rwa [hafter, wordsOf_trimStart] at h

end ProxyLog.Text
