import Mathlib.Data.List.Basic
import ProxyLog.Text.Quoted

/-!
# Texts inside quotes

* `notMem_repr`: a number is written with digits and a sign.
* `append_mark_inj`: a text is cut at the first of its marks in one way.
* `mem_escaped_or`: between its quotes a text keeps every character, or there is a backslash.
* `escaped_eq_of_infix`: a text with one pair of quotes quotes nothing but what stands between them.
* `infix_right`, `infix_left`: the parts of a text are inside it.
-/

set_option autoImplicit false

namespace ProxyLog.Text

/-! ## Marks -/

theorem notMem_repr {c : Char} (hdigit : c.isDigit = false) (hsign : c ≠ '-') (n : Int) : c ∉ n.repr.toList := by
  have hdigits (m : Nat) : c ∉ m.repr.toList := by
    intro hmem
    rw [Nat.toList_repr] at hmem
    rw [Nat.isDigit_of_mem_toDigits (by decide) (by decide) hmem] at hdigit
    cases hdigit
  rw [Int.repr_eq_if]
  split
  · exact hdigits _
  · rw [String.toList_append]
    intro hmem
    rcases List.mem_append.mp hmem with hmem | hmem
    · exact hsign (by simpa using hmem)
    · exact hdigits _ hmem

/-- A text is cut at the first of its marks in one way. -/
theorem append_mark_inj {mark : Char} {xs ys rest rest' : List Char} (hxs : mark ∉ xs) (hys : mark ∉ ys)
    (h : xs ++ mark :: rest = ys ++ mark :: rest') : xs = ys ∧ rest = rest' := by
  induction xs generalizing ys with
  | nil =>
    cases ys with
    | nil => exact ⟨rfl, (List.cons.inj h).2⟩
    | cons y ys => exact absurd ((List.cons.inj h).1 ▸ List.mem_cons_self) hys
  | cons x xs ih =>
    cases ys with
    | nil => exact absurd ((List.cons.inj h).1 ▸ List.mem_cons_self) hxs
    | cons y ys =>
      obtain ⟨rfl, htail⟩ := List.cons.inj h
      obtain ⟨rfl, hrest⟩ := ih (List.not_mem_of_not_mem_cons hxs) (List.not_mem_of_not_mem_cons hys) htail
      exact ⟨rfl, hrest⟩

/-! ## Quotes -/

/-- What stands between the quotes of a quoted text. -/
def escaped (cs : List Char) : List Char := cs.flatMap (escapeChar (quoteMark cs))

theorem quoteChars_eq (cs : List Char) : quoteChars cs = quoteMark cs :: escaped cs ++ [quoteMark cs] := rfl

theorem quoteMark_cases (cs : List Char) : quoteMark cs = '\'' ∨ quoteMark cs = '"' := by
  unfold quoteMark
  split
  · exact Or.inr rfl
  · exact Or.inl rfl

theorem mem_escapeChar_or (mark c : Char) : c ∈ escapeChar mark c ∨ '\\' ∈ escapeChar mark c := by
  unfold escapeChar
  grind

theorem mem_escaped_or {cs : List Char} {c : Char} (h : c ∈ cs) : c ∈ escaped cs ∨ '\\' ∈ escaped cs := by
  refine (mem_escapeChar_or (quoteMark cs) c).imp ?_ ?_ <;> exact fun hmem => List.mem_flatMap.mpr ⟨c, h, hmem⟩

/-- A text with one pair of quotes quotes nothing but what stands between them. -/
theorem escaped_eq_of_infix {cs front body back : List Char}
    (hfront : '\'' ∉ front) (hbody : '\'' ∉ body) (hback : '\'' ∉ back)
    (hdouble : '"' ∉ front ++ '\'' :: body ++ '\'' :: back)
    (h : quoteChars cs <:+: front ++ '\'' :: body ++ '\'' :: back) : escaped cs = body := by
  have hmark : quoteMark cs = '\'' := by
    refine (quoteMark_cases cs).resolve_right fun hquote => hdouble (h.subset ?_)
    rw [quoteChars_eq, hquote]
    simp
  obtain ⟨before, behind, heq⟩ := h
  rw [quoteChars_eq, hmark] at heq
  -- The two quotes are those of the quoted text, so its parts hold no other.
  have hcount := congrArg (List.count '\'') heq
  simp only [List.count_append, List.count_cons_self, List.count_nil, List.count_eq_zero_of_not_mem hfront,
    List.count_eq_zero_of_not_mem hbody, List.count_eq_zero_of_not_mem hback, List.cons_append] at hcount
  have hbefore : '\'' ∉ before := List.count_eq_zero.mp (by omega)
  have hescaped : '\'' ∉ escaped cs := List.count_eq_zero.mp (by omega)
  have hcut : before ++ '\'' :: (escaped cs ++ '\'' :: behind) = front ++ '\'' :: (body ++ '\'' :: back) := by
    simpa using heq
  obtain ⟨-, hrest⟩ := append_mark_inj hbefore hfront hcut
  exact (append_mark_inj hescaped hbody hrest).1

/-! ## Texts inside texts -/

theorem infix_right (a b : String) : b.toList <:+: (a ++ b).toList :=
  ⟨a.toList, [], by simp⟩

theorem infix_left {text a : String} (h : text.toList <:+: a.toList) (b : String) :
    text.toList <:+: (a ++ b).toList := by
  rw [String.toList_append]
  exact h.trans (List.prefix_append _ _).isInfix

end ProxyLog.Text
