import ProxyLog.Yaml.Value

/-!
# Plain scalars

A scalar without quotes is null, a truth value, an integer, a number or a date when it is written like one,
and a text otherwise.

* `integerOf? cs`: decimal, binary, octal and hexadecimal integers, and those to base sixty.
* `floatOf? cs`: numbers with a decimal point, also to base sixty, infinities, and the one that is
  no number.
* `dateOf? word`: dates, of which one that the calendar lacks is a bad value.
* `plainValue word`: the value of any other plain scalar.
-/

set_option autoImplicit false

namespace ProxyLog.Yaml

open Number

/-! ## Integers -/

/-- A digit or an underscore. -/
def isDigitOrGap (c : Char) : Bool := Text.isAsciiDigit c || c == '_'

/-- The text without underscores. -/
def withoutGaps (cs : List Char) : List Char := cs.filter (· != '_')

/-- The number that digits write to a base. -/
def valueInBase (base : Nat) (cs : List Char) : Nat :=
  (cs.filterMap Text.hexValue?).foldl (fun n d => base * n + d) 0

/-- The digits of a class, without underscores, if there are any and nothing else. -/
def digitsIn? (p : Char → Bool) (cs : List Char) : Option (List Char) :=
  let digits := withoutGaps cs
  if digits.isEmpty || !digits.all p then none else some digits

/-- A place to base sixty: one digit, or two of which the first is below six. -/
def sixtieth? (cs : List Char) : Option Nat :=
  match cs with
  | [a] => if Text.isAsciiDigit a then some (digitsValue cs) else none
  | [a, b] =>
    if Text.isAsciiDigit a && a.toNat < 0x36 && Text.isAsciiDigit b then some (digitsValue cs) else none
  | _ => none

/-- The parts between colons. -/
def colonParts (cs : List Char) : List (List Char) :=
  cs.foldr (fun c parts => if c = ':' then [] :: parts else parts.modifyHead (c :: ·)) [[]]

/-- A number that starts with a digit other than zero and goes on with digits and underscores. -/
def isCounting (cs : List Char) : Bool :=
  match cs with
  | c :: rest => Text.isAsciiDigit c && c != '0' && rest.all isDigitOrGap
  | [] => false

def unsignedInteger? (cs : List Char) : Option Nat :=
  match cs with
  | ['0'] => some 0
  | '0' :: 'b' :: rest => (digitsIn? (fun c => c == '0' || c == '1') rest).map (valueInBase 2)
  | '0' :: 'x' :: rest => (digitsIn? (fun c => (Text.hexValue? c).isSome) rest).map (valueInBase 16)
  | '0' :: rest =>
    if rest.all fun c => c == '_' || (Text.isAsciiDigit c && c.toNat < 0x38) then
      some (valueInBase 8 (withoutGaps rest))
    else none
  | _ =>
    match colonParts cs with
    | [whole] => if isCounting whole then some (digitsValue (withoutGaps whole)) else none
    | whole :: places =>
      if isCounting whole then
        (places.mapM sixtieth?).map fun ns =>
          ns.foldl (fun n d => 60 * n + d) (digitsValue (withoutGaps whole))
      else none
    | [] => none

/-- The integer that a scalar writes. -/
def integerOf? (cs : List Char) : Option Int :=
  let (negative, body) := takeSign cs
  (unsignedInteger? body).map fun n => if negative then -(n : Int) else n

/-- The digits of a decimal integer; other integers have none that could be too many. -/
def decimalDigits (cs : List Char) : Nat :=
  let body := (takeSign cs).2
  if isCounting body then (withoutGaps body).length else 0

/-! ## Numbers -/

/-- An exponent with its sign, which cannot be left out; nothing at all is zero. -/
def signedExponent? : List Char → Option Int
  | [] => some 0
  | mark :: sign :: digits =>
    if (mark == 'e' || mark == 'E') && (sign == '+' || sign == '-') && !digits.isEmpty &&
        digits.all Text.isAsciiDigit then
      some (if sign = '-' then -(digitsValue digits : Int) else digitsValue digits)
    else none
  | _ => none

/-- A number with a decimal point, given the digits in front of it and what follows it. -/
def pointed? (negative : Bool) (whole rest : List Char) : Option Binary64 :=
  let places := withoutGaps (rest.takeWhile isDigitOrGap)
  (signedExponent? (rest.dropWhile isDigitOrGap)).map fun e =>
    (Decimal.mk negative (digitsValue (withoutGaps whole ++ places)) (e - places.length)).toBinary64

/-- A number to base sixty whose last place has a decimal point. The places are added up from the
last, each sum rounded to a double. -/
def sixtyPointed? (negative : Bool) (body : List Char) : Option Binary64 := do
  let point := body.dropWhile (· != '.')
  if point.isEmpty || !(point.drop 1).all isDigitOrGap then none
  match (colonParts (body.takeWhile (· != '.'))) with
  | whole :: place :: more =>
    if !whole.head?.any Text.isAsciiDigit || !whole.all isDigitOrGap then none
    let places ← (place :: more).mapM sixtieth?
    let parts := (digitsValue (withoutGaps whole) :: places).reverse
    let last := (withoutGaps (point.drop 1))
    let start := Decimal.mk false (parts.headD 0 * Nat.pow 10 last.length + digitsValue last) (-last.length)
    let sum := (parts.drop 1).foldl (fun (s : Binary64 × Nat) d => (s.1.extend (d * s.2), s.2 * 60))
      (start.toBinary64, 60)
    pure (sum.1.withSign negative)
  | _ => none

/-- The words for infinity and for no number. -/
def floatWord? (negative signed : Bool) (word : String) : Option Binary64 :=
  if word == "inf" || word == "Inf" || word == "INF" then some (.infinite negative)
  else if !signed && (word == "nan" || word == "NaN" || word == "NAN") then some .nan
  else none

/-- The number that a scalar writes. -/
def floatOf? (cs : List Char) : Option Binary64 :=
  let (negative, body) := takeSign cs
  let signed := body.length < cs.length
  match body with
  | '.' :: rest =>
    match floatWord? negative signed (String.ofList rest) with
    | some x => some x
    | none =>
      if !signed && rest.head?.any Text.isAsciiDigit then pointed? false [] rest else none
  | c :: _ =>
    if Text.isAsciiDigit c then
      match body.dropWhile isDigitOrGap with
      | '.' :: rest => pointed? negative (body.takeWhile isDigitOrGap) rest
      | _ => sixtyPointed? negative body
    else none
  | [] => none

/-! ## Dates -/

def isLeapYear (year : Nat) : Bool := year % 4 == 0 && (year % 100 != 0 || year % 400 == 0)

def daysInMonth (year month : Nat) : Nat :=
  match month with
  | 2 => if isLeapYear year then 29 else 28
  | 4 | 6 | 9 | 11 => 30
  | _ => 31

/-- The year, the month and the day that a text writes with four, two and two digits. -/
def dateParts? : List Char → Option (Nat × Nat × Nat)
  | [y₁, y₂, y₃, y₄, '-', m₁, m₂, '-', d₁, d₂] =>
    if [y₁, y₂, y₃, y₄, m₁, m₂, d₁, d₂].all Text.isAsciiDigit then
      some (digitsValue [y₁, y₂, y₃, y₄], digitsValue [m₁, m₂], digitsValue [d₁, d₂])
    else none
  | _ => none

/-- The value of a date. It stands for the text that writes it, and for no integer. -/
def Foreign.date (word : String) (year month day : Nat) : Foreign where
  typeName := "datetime.date"
  plain := word
  shown := s!"datetime.date({year}, {month}, {day})"
  isFalsy := false
  hasLongInteger := false
  integer := .error ⟨.type, noIntegerMessage "datetime.date"⟩

/-- The date that a scalar writes. -/
def dateOf? (word : String) : Option (Except Raised Foreign) :=
  (dateParts? word.toList).map fun (year, month, day) =>
    if year = 0 then .error ⟨.value, "year 0 is out of range"⟩
    else if month < 1 ∨ 12 < month then .error ⟨.value, "month must be in 1..12"⟩
    else if day < 1 ∨ daysInMonth year month < day then .error ⟨.value, "day is out of range for month"⟩
    else .ok (.date word year month day)

/-! ## Scalars -/

def boolWord? (word : String) : Option Bool :=
  if ["yes", "Yes", "YES", "true", "True", "TRUE", "on", "On", "ON"].contains word then some true
  else if ["no", "No", "NO", "false", "False", "FALSE", "off", "Off", "OFF"].contains word then some false
  else none

def isNullWord (word : String) : Bool := ["", "~", "null", "Null", "NULL"].contains word

def plainValue (word : String) : Value :=
  if isNullWord word then .null
  else match boolWord? word with
    | some b => .bool b
    | none =>
      match integerOf? word.toList with
      | some n => .int n
      | none =>
        match floatOf? word.toList with
        | some x => .float x
        | none => .text word

end ProxyLog.Yaml
