import ProxyLog.Number.Binary64
import ProxyLog.Text.Blank
import ProxyLog.Text.Case
import ProxyLog.Text.Digit
import ProxyLog.Text.Quoted

/-!
# Reading decimal numbers

Numbers may stand between white space, be written with the digits of any script, and have single
underscores between digits.

* `digitsValue ds`: the number that ASCII digits write.
* `readInteger s`: an integer with an optional sign; more than `digitLimit` digits are refused.
* `Decimal`: `± digits * 10 ^ exponent`; `Decimal.toBinary64` is the nearest double.
* `readReal s`: a decimal number with an optional fraction and exponent, or one of the words for
  infinity and for no number.
-/

set_option autoImplicit false

namespace ProxyLog.Number

open Text

/-! ## Digits -/

/-- The number that a row of digits writes. -/
def digitsValue (ds : List Char) : Nat := ds.foldl (fun n c => 10 * n + (c.toNat - 0x30)) 0

/-- The most digits that an integer may be read from. -/
def digitLimit : Nat := 4300

/-- White space around a number: the blanks without the four information separators. -/
def isNumberBlank (c : Char) : Bool := isBlank c && !(0x1c ≤ c.toNat && c.toNat ≤ 0x1f)

/-- A number's text without the white space around it, its digits as ASCII digits. -/
def plainNumber (cs : List Char) : List Char :=
  (dropTrailing isNumberBlank (cs.dropWhile isNumberBlank)).map fun c =>
    match digitValue? c with
    | some v => Char.ofNat (0x30 + v)
    | none => c

/-- The text without its underscores, if each of them stands between two digits; `before` is the
character in front. -/
def dropUnderscores? (before : Char) : List Char → Option (List Char)
  | [] => if before = '_' then none else some []
  | c :: cs =>
    if c = '_' then if isAsciiDigit before then dropUnderscores? c cs else none
    else if before = '_' ∧ !isAsciiDigit c then none
    else (dropUnderscores? c cs).map (c :: ·)

/-- A sign, if there is one, and the rest. -/
def takeSign : List Char → Bool × List Char
  | '+' :: cs => (false, cs)
  | '-' :: cs => (true, cs)
  | cs => (false, cs)

/-! ## Integers -/

/-- Why a text is no integer. -/
inductive IntegerFault
  | notInteger (text : String)
  | tooManyDigits (count : Nat)
  deriving DecidableEq, Repr

def tooManyDigitsMessage (count : Nat) : String :=
  s!"Exceeds the limit ({digitLimit} digits) for integer string conversion: value has {count} " ++
    "digits; use sys.set_int_max_str_digits() to increase the limit"

/-- What is said about an integer that has too many digits to be written. -/
def unwritableMessage : String :=
  s!"Exceeds the limit ({digitLimit} digits) for integer string conversion; " ++
    "use sys.set_int_max_str_digits() to increase the limit"

/-- The most characters of a text that a message about an integer quotes. -/
def quotedLimit : Nat := 200

def IntegerFault.message : IntegerFault → String
  | .notInteger text =>
    "invalid literal for int() with base 10: " ++
      String.ofList ((quoteChars text.toList).take quotedLimit)
  | .tooManyDigits count => tooManyDigitsMessage count

/-- The digits at the start of a text, their underscores, and the rest. -/
def digitRun (cs : List Char) : List Char × List Char :=
  (cs.takeWhile fun c => isAsciiDigit c || c == '_', cs.dropWhile fun c => isAsciiDigit c || c == '_')

/-- The integer that a text writes. -/
def readInteger (s : String) : Except IntegerFault Int :=
  let (negative, body) := takeSign (plainNumber s.toList)
  let (run, rest) := digitRun body
  match dropUnderscores? '+' run with
  | none | some [] => .error (.notInteger s)
  | some digits =>
    if digits.length > digitLimit then .error (.tooManyDigits digits.length)
    else if !rest.isEmpty then .error (.notInteger s)
    else .ok (if negative then -(digitsValue digits : Int) else digitsValue digits)

/-! ## Decimal numbers -/

/-- A decimal number with an exponent. -/
structure Decimal where
  negative : Bool
  digits : Nat
  exponent : Int
  deriving DecidableEq, Repr

def digitCount (n : Nat) : Nat := (Nat.toDigits 10 n).length

/-- The double nearest to a decimal number. Numbers far above or below all doubles are not expanded. -/
def Decimal.toBinary64 (d : Decimal) : Binary64 :=
  let top : Int := digitCount d.digits + d.exponent
  if d.digits = 0 ∨ top < -400 then .finite d.negative 0 0
  else if top > 400 then .infinite d.negative
  else if 0 ≤ d.exponent then .ofQuotient d.negative (d.digits * Nat.pow 10 d.exponent.toNat) 1
  else .ofQuotient d.negative d.digits (Nat.pow 10 (-d.exponent).toNat)

/-- The exponent part of a decimal number that makes up the whole of a text; none is zero. -/
def exponentPart? : List Char → Option Int
  | [] => some 0
  | c :: cs =>
    if c = 'e' ∨ c = 'E' then
      let (negative, digits) := takeSign cs
      if digits.isEmpty || !digits.all isAsciiDigit then none
      else some (if negative then -(digitsValue digits : Int) else digitsValue digits)
    else none

/-- An unsigned decimal number that makes up the whole of a text. -/
def unsignedDecimal? (negative : Bool) (cs : List Char) : Option Decimal :=
  let whole := cs.takeWhile isAsciiDigit
  let afterWhole := cs.dropWhile isAsciiDigit
  let (places, rest) :=
    match afterWhole with
    | '.' :: r => (r.takeWhile isAsciiDigit, r.dropWhile isAsciiDigit)
    | r => ([], r)
  if whole.isEmpty && places.isEmpty then none
  else (exponentPart? rest).map fun e => ⟨negative, digitsValue (whole ++ places), e - places.length⟩

/-- The double that a text writes. -/
def readReal (s : String) : Option Binary64 := do
  let cs ← dropUnderscores? '+' (plainNumber s.toList)
  let (negative, body) := takeSign cs
  let word := String.ofList (body.map asciiLower)
  if word == "inf" || word == "infinity" then some (.infinite negative)
  else if word == "nan" then some .nan
  else (unsignedDecimal? negative body).map Decimal.toBinary64

end ProxyLog.Number
