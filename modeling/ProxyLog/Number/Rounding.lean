/-!
# Rounding of quotients

* `divHalfEven num den`: the integer nearest to the quotient; of two that are equally near, the
  even one.
* `intDivHalfEven num den`: the same with a sign.
-/

set_option autoImplicit false

namespace ProxyLog.Number

/-- The natural number nearest to `num / den`, ties to even. -/
def divHalfEven (num den : Nat) : Nat :=
  let q := num / den
  let twice := 2 * (num % den)
  if twice < den ∨ (twice = den ∧ q % 2 = 0) then q else q + 1

/-- The integer nearest to `num / den`, ties to even. -/
def intDivHalfEven (num : Int) (den : Nat) : Int :=
  if num < 0 then -(divHalfEven num.natAbs den : Int) else divHalfEven num.natAbs den

/-- The rounded quotient lies within half a unit of the exact one. -/
theorem divHalfEven_near (num den : Nat) (h : 0 < den) :
    2 * (divHalfEven num den * den) ≤ 2 * num + den ∧
      2 * num ≤ 2 * (divHalfEven num den * den) + den := by
  have hm := Nat.div_add_mod num den
  have hl := Nat.mod_lt num h
  have hc : num / den * den = den * (num / den) := Nat.mul_comm _ _
  unfold divHalfEven
  simp only
  split
  · rename_i hs
    rcases hs with hs | ⟨hs, _⟩ <;> constructor <;> omega
  · rename_i hs
    have h1 : den ≤ 2 * (num % den) := by
      rcases Nat.lt_or_ge (2 * (num % den)) den with h2 | h2
      · exact absurd (Or.inl h2) hs
      · exact h2
    have h2 : (num / den + 1) * den = den * (num / den) + den := by
      rw [Nat.add_mul, Nat.one_mul, hc]
    constructor <;> omega

/-- A quotient without remainder is not rounded. -/
theorem divHalfEven_mul (q den : Nat) (h : 0 < den) : divHalfEven (q * den) den = q := by
  simp [divHalfEven, Nat.mul_div_cancel _ h, h]

end ProxyLog.Number
