import ProxyLog.Number.Rounding

/-!
# Binary floating point with 53 bits

Numbers with a fraction are kept as the double-precision values that the log's readers compute
with, in exact integer arithmetic.

* `Binary64`: a finite value is `± mantissa * 2 ^ exponent`.
* `ofQuotient negative num den`: the value nearest to a quotient, ties to the even mantissa;
  infinite from half a step above the largest finite value on.
* `mulNat x k`: the product with a natural number, rounded once.
* `truncate x`, `fraction x`: the integer part and what it leaves.
* `roundInt x`: the nearest integer, ties to even.
-/

set_option autoImplicit false

namespace ProxyLog.Number

/-- A double-precision value. The mantissa of a finite value is below `2 ^ 53`, its exponent from
`-1074` to `971`. -/
inductive Binary64
  | nan
  | infinite (negative : Bool)
  | finite (negative : Bool) (mantissa : Nat) (exponent : Int)
  deriving DecidableEq, Repr

namespace Binary64

/-- The exponent of the last of 53 bits of `num / den`, but not below that of the least value. -/
def lastBit (num den : Nat) : Int :=
  let top : Int := (num.log2 : Int) - den.log2
  let reached : Bool :=
    if 0 ≤ top then den * Nat.pow 2 top.toNat ≤ num else den ≤ num * Nat.pow 2 (-top).toNat
  max (-1074) (if reached then top - 52 else top - 53)

/-- The value nearest to `num / den`. -/
def ofQuotient (negative : Bool) (num den : Nat) : Binary64 :=
  if num = 0 then finite negative 0 0
  else
    let e := lastBit num den
    let m :=
      if 0 ≤ e then divHalfEven num (den * Nat.pow 2 e.toNat)
      else divHalfEven (num * Nat.pow 2 (-e).toNat) den
    let carried := m = Nat.pow 2 53
    let mantissa := if carried then Nat.pow 2 52 else m
    let exponent := if carried then e + 1 else e
    if exponent > 971 then infinite negative else finite negative mantissa exponent

/-- The value nearest to an integer. -/
def ofInt (n : Int) : Binary64 := ofQuotient (n < 0) n.natAbs 1

/-- The finite value as a numerator and a denominator, without its sign. -/
def quotient (mantissa : Nat) (exponent : Int) : Nat × Nat :=
  if 0 ≤ exponent then (mantissa * Nat.pow 2 exponent.toNat, 1) else (mantissa, Nat.pow 2 (-exponent).toNat)

/-- The product with a natural number. -/
def mulNat : Binary64 → Nat → Binary64
  | nan, _ => nan
  | infinite negative, k => if k = 0 then nan else infinite negative
  | finite negative m e, k =>
    let (num, den) := quotient m e
    ofQuotient negative (num * k) den

/-- The value without its sign, further from zero by a natural number. -/
def extend : Binary64 → Nat → Binary64
  | finite _ m e, k =>
    let (num, den) := quotient m e
    ofQuotient false (num + k * den) den
  | x, _ => x

/-- The value with a sign instead of its own. -/
def withSign (negative : Bool) : Binary64 → Binary64
  | nan => nan
  | infinite _ => infinite negative
  | finite _ m e => finite negative m e

/-- The integer part of a finite value, toward zero. -/
def truncate (negative : Bool) (mantissa : Nat) (exponent : Int) : Int :=
  let (num, den) := quotient mantissa exponent
  if negative then -(num / den : Int) else num / den

/-- What truncation leaves of a finite value; the result is exact. -/
def fraction (negative : Bool) (mantissa : Nat) (exponent : Int) : Binary64 :=
  let (num, den) := quotient mantissa exponent
  ofQuotient negative (num % den) den

/-- The integer nearest to a finite value, ties to even. -/
def roundInt (negative : Bool) (mantissa : Nat) (exponent : Int) : Int :=
  let (num, den) := quotient mantissa exponent
  if negative then -(divHalfEven num den : Int) else divHalfEven num den

end Binary64

end ProxyLog.Number
