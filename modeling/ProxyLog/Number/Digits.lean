import ProxyLog.Number.Decimal

/-!
# Writing doubles in decimal

* `fixedText places …`: the exact value of a finite double rounded to a number of decimal places, ties
  to even.
* `shortest x`: the fewest digits that read back as the same double, and of those the nearest.
* `toText x`: the shortest digits, written positionally from `0.0001` to below `10 ^ 16`, and with an
  exponent of at least two digits elsewhere.
-/

set_option autoImplicit false

namespace ProxyLog.Number

/-! ## Fixed places -/

/-- A number of tenths to the power `places` with its decimal point. -/
def pointText (places scaled : Nat) : String :=
  let digits := Nat.toDigits 10 scaled
  let padded := List.replicate (places + 1 - digits.length) '0' ++ digits
  let split := padded.length - places
  String.ofList (padded.take split ++ (if places = 0 then [] else '.' :: padded.drop split))

/-- A finite double with a fixed number of decimal places. -/
def fixedText (places : Nat) (negative : Bool) (mantissa : Nat) (exponent : Int) : String :=
  let (num, den) := Binary64.quotient mantissa exponent
  (if negative then "-" else "") ++ pointText places (divHalfEven (num * Nat.pow 10 places) den)

/-! ## Fewest digits -/

/-- The power of ten just above a positive quotient: `10 ^ (k - 1) ≤ num / den < 10 ^ k`. -/
def decimalTop (num den : Nat) : Int :=
  if den ≤ num then digitCount (num / den)
  else
    -- the first power of ten that lifts the quotient to one or more
    let lift := digitCount (den / num)
    if den ≤ num * Nat.pow 10 (lift - 1) then 2 - lift else 1 - lift

/-- The quotient in units of `10 ^ place`, rounded down, and whether something was left. -/
def inUnits (num den : Nat) (place : Int) : Nat × Nat × Nat :=
  let n := if 0 ≤ place then num else num * Nat.pow 10 (-place).toNat
  let d := if 0 ≤ place then den * Nat.pow 10 place.toNat else den
  (n / d, n % d, d)

/-- Of a double's neighbours with `count` digits those that read back as it, the nearer first. -/
def readingBack (mantissa : Nat) (exponent : Int) (count : Nat) : List Decimal :=
  let (num, den) := Binary64.quotient mantissa exponent
  let place := decimalTop num den - count
  let (below, left, unit) := inUnits num den place
  let neighbours :=
    if left = 0 then [below]
    else if 2 * left < unit ∨ (2 * left = unit ∧ below % 2 = 0) then [below, below + 1]
    else [below + 1, below]
  (neighbours.map fun digits => Decimal.mk false digits place).filter fun d =>
    d.toBinary64 == .ofQuotient false num den

/-- The decimal number with the fewest digits that reads back as a positive double. Seventeen digits
always do. -/
def shortest (mantissa : Nat) (exponent : Int) : Option Decimal :=
  ((List.range 17).findSome? fun k => (readingBack mantissa exponent (k + 1)).head?)

/-- Digits without the zeros at their end, with the exponent of the last one left. -/
def trimZeros (digits : List Char) (exponent : Int) : List Char × Int :=
  let kept := Text.dropTrailing (· == '0') digits
  (kept, exponent + (digits.length - kept.length : Nat))

/-- Digits and an exponent as text: positional when the point stands within sixteen digits from the
front or at most three zeros before it. -/
def placeText (digits : List Char) (exponent : Int) : String :=
  let point : Int := digits.length + exponent
  if -4 < point ∧ point ≤ 16 then
    if 0 ≤ exponent then
      String.ofList (digits ++ List.replicate exponent.toNat '0') ++ ".0"
    else if 0 < point then
      String.ofList (digits.take point.toNat ++ '.' :: digits.drop point.toNat)
    else "0." ++ String.ofList (List.replicate (-point).toNat '0' ++ digits)
  else
    let power := point - 1
    let size := Nat.toDigits 10 power.natAbs
    let padded := if size.length < 2 then '0' :: size else size
    let fractionPart := if digits.length > 1 then '.' :: digits.drop 1 else []
    String.ofList (digits.take 1 ++ fractionPart ++ 'e' :: (if power < 0 then '-' else '+') :: padded)

def Binary64.toText : Binary64 → String
  | .nan => "nan"
  | .infinite negative => if negative then "-inf" else "inf"
  | .finite negative mantissa exponent =>
    let mark := if negative then "-" else ""
    match mantissa, shortest mantissa exponent with
    | 0, _ | _, none => mark ++ "0.0"
    | _, some d =>
      let (digits, e) := trimZeros (Nat.toDigits 10 d.digits) d.exponent
      mark ++ placeText digits e

end ProxyLog.Number
