/-!
# Lines of a text

* `joinLineEnds`: every carriage return, with or without a line feed, becomes one line feed.
* `cutAt p`: the pieces of a text between the characters of a class.
* `feedLines`: the lines of a text, cut at line feeds only.
* `lines`: the lines of a text, cut at every line boundary (line feed, carriage return or both,
  vertical tab, form feed, the file, group and record separators, next line, and the two Unicode
  separators).

A boundary at the very end of the text opens no further line.
-/

set_option autoImplicit false

namespace ProxyLog.Text

/-! ## Line ends -/

/-- The single characters that end a line. -/
def isLineEnd (c : Char) : Bool :=
  let n := c.toNat
  (10 ≤ n && n ≤ 13) || (0x1c ≤ n && n ≤ 0x1e) || n == 0x85 || n == 0x2028 || n == 0x2029

/-- One character of a text whose line ends are joined; the state is the text so far, last
character first, and whether a carriage return was just read. -/
def joinStep (state : List Char × Bool) (c : Char) : List Char × Bool :=
  if c = '\r' then ('\n' :: state.1, true)
  else if c = '\n' ∧ state.2 then (state.1, false)
  else (c :: state.1, false)

/-- The text with every carriage return, alone or before a line feed, read as one line feed. -/
def joinLineEnds (cs : List Char) : List Char := (cs.foldl joinStep ([], false)).1.reverse

/-! ## Cutting -/

/-- Puts a character in front of the first piece. -/
def consPiece (c : Char) : List (List Char) → List (List Char)
  | [] => [[c]]
  | piece :: rest => (c :: piece) :: rest

/-- The pieces of a text that end at the characters of a class; what follows the last of them is a
piece if it is not empty. -/
def cutAt (p : Char → Bool) (cs : List Char) : List (List Char) :=
  cs.foldr (fun c pieces => if p c then [] :: pieces else consPiece c pieces) []

@[simp] theorem cutAt_nil (p : Char → Bool) : cutAt p [] = [] := rfl

@[simp] theorem cutAt_cons (p : Char → Bool) (c : Char) (cs : List Char) :
    cutAt p (c :: cs) = if p c then [] :: cutAt p cs else consPiece c (cutAt p cs) := rfl

/-- A piece without characters of the class, closed by one of them, comes off whole. -/
theorem cutAt_append_cons {p : Char → Bool} {c : Char} (h : p c = true) :
    ∀ (xs : List Char), (∀ x ∈ xs, p x = false) → ∀ rest,
      cutAt p (xs ++ c :: rest) = xs :: cutAt p rest
  | [], _, rest => by simp [h]
  | x :: xs, hx, rest => by
    have ih := cutAt_append_cons h xs (fun y hy => hx y (List.mem_cons_of_mem _ hy)) rest
    simp [hx x List.mem_cons_self, ih, consPiece]

/-- The lines of a text, cut at line feeds only. -/
def feedLines (s : String) : List String := (cutAt (· = '\n') s.toList).map String.ofList

/-- The lines of a text, cut at every line boundary. -/
def lines (s : String) : List String :=
  (cutAt isLineEnd (joinLineEnds s.toList)).map String.ofList

/-! ## Texts without carriage returns -/

theorem foldl_joinStep_of_not_mem {cs : List Char} (h : '\r' ∉ cs) (out : List Char) :
    cs.foldl joinStep (out, false) = (cs.reverse ++ out, false) := by
  induction cs generalizing out with
  | nil => rfl
  | cons c cs ih =>
    have hc : c ≠ '\r' := fun e => h (by simp [e])
    have hcs : '\r' ∉ cs := fun m => h (List.mem_cons_of_mem _ m)
    simp [joinStep, hc, ih hcs]

theorem joinLineEnds_of_not_mem {cs : List Char} (h : '\r' ∉ cs) : joinLineEnds cs = cs := by
  simp [joinLineEnds, foldl_joinStep_of_not_mem h]

end ProxyLog.Text
