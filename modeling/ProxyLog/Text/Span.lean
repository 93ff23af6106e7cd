/-!
# Spans of code points

A class of characters is given by the closed spans of its code points.

* `inSpans spans n`: the code point lies in one of the spans.
-/

set_option autoImplicit false

namespace ProxyLog.Text

/-- The code point lies in one of the closed spans. -/
def inSpans (spans : List (Nat × Nat)) (n : Nat) : Bool :=
  spans.any fun s => s.1 ≤ n && n ≤ s.2

theorem inSpans_eq_true_iff {spans : List (Nat × Nat)} {n : Nat} :
    inSpans spans n = true ↔ ∃ s ∈ spans, s.1 ≤ n ∧ n ≤ s.2 := by
  simp [inSpans, List.any_eq_true]

end ProxyLog.Text
