/-!
# Blank characters, trimming and words

Log lines are cut into fields at runs of blank characters, in the wide sense of white space:

* `isBlank c`: the character separates fields (line ends, the four information separators,
  next line, and every Unicode space; not the zero-width ones).
* `trimStart`, `trimEnd`, `trim`: the text without blanks at its ends; `dropTrailing` takes
  another class off the end.
* `wordsOf cs`: the maximal blank-free runs, in order.
* `words s`, `strip s`: the same on `String`.
-/

set_option autoImplicit false

namespace ProxyLog.Text

/-! ## The class -/

/-- The characters that separate fields. -/
def isBlank (c : Char) : Bool :=
  let n := c.toNat
  (9 ≤ n && n ≤ 13) || (0x1c ≤ n && n ≤ 0x20) || n == 0x85 || n == 0xa0 || n == 0x1680 ||
    (0x2000 ≤ n && n ≤ 0x200a) || n == 0x2028 || n == 0x2029 || n == 0x202f || n == 0x205f ||
    n == 0x3000

/-- Every character of the standard library's class is blank. -/
theorem isBlank_of_isWhitespace {c : Char} (h : c.isWhitespace = true) : isBlank c = true := by
  simp only [Char.isWhitespace, Bool.or_eq_true, decide_eq_true_eq] at h
  rcases h with ((h | h) | h) | h <;> subst h <;> decide

/-! ## Trimming -/

/-- The text from its first non-blank character on. -/
def trimStart (cs : List Char) : List Char := cs.dropWhile isBlank

/-- The text without the characters of a class at its end. -/
def dropTrailing (p : Char → Bool) (cs : List Char) : List Char := (cs.reverse.dropWhile p).reverse

/-- The text up to its last non-blank character. -/
def trimEnd (cs : List Char) : List Char := dropTrailing isBlank cs

/-- The text without blanks at either end. -/
def trim (cs : List Char) : List Char := trimEnd (trimStart cs)

/-- `trim` on strings. -/
def strip (s : String) : String := String.ofList (trim s.toList)

/-! ## Words -/

/-- The maximal blank-free runs of a text. -/
def wordsOf : List Char → List (List Char)
  | [] => []
  | c :: cs =>
    if isBlank c then wordsOf cs
    else if cs.head?.all isBlank then [c] :: wordsOf cs
    else (wordsOf cs).modifyHead (c :: ·)

/-- The blank-separated fields of a line. -/
def words (s : String) : List String := (wordsOf s.toList).map String.ofList

/-- What follows the first word, from the next non-blank character on. -/
def afterWord (cs : List Char) : List Char := trimStart (cs.dropWhile fun c => !isBlank c)

/-- The first word of a text that starts with none blank. -/
def firstWord (cs : List Char) : List Char := cs.takeWhile fun c => !isBlank c

theorem wordsOf_cons_blank {c : Char} (h : isBlank c = true) (cs : List Char) :
    wordsOf (c :: cs) = wordsOf cs := by
  simp [wordsOf, h]

theorem wordsOf_trimStart (cs : List Char) : wordsOf (trimStart cs) = wordsOf cs := by
  induction cs with
  | nil => rfl
  | cons c cs ih =>
    by_cases h : isBlank c = true
    · rw [wordsOf_cons_blank h, ← ih]
      simp [trimStart, List.dropWhile, h]
    · simp [trimStart, List.dropWhile, h]

/-- A text that starts with a non-blank character: its first word, then the words of the rest. -/
theorem wordsOf_cons {c : Char} (h : isBlank c = false) (cs : List Char) :
    wordsOf (c :: cs) = firstWord (c :: cs) :: wordsOf (afterWord (c :: cs)) := by
  induction cs generalizing c with
  | nil => simp [wordsOf, firstWord, afterWord, trimStart, h]
  | cons d ds ih =>
    rw [wordsOf]
    by_cases hd : isBlank d = true
    · simp [h, hd, firstWord, afterWord, wordsOf_trimStart]
    · have hd' : isBlank d = false := by simpa using hd
      rw [ih hd']
      simp [h, hd', firstWord, afterWord]

end ProxyLog.Text
