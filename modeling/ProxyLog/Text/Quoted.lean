import ProxyLog.Text.Printable

/-!
# Quoted texts

Messages show a text between quotes with everything that is not printable escaped, so that two
different texts never look alike.

* `quoteMark cs`: the quote put around a text, single unless the text has single quotes and no
  double ones.
* `escapeChar mark c`: how a character is written between two `mark`s.
* `quote s`: the quoted text.
-/

set_option autoImplicit false

namespace ProxyLog.Text

def hexDigit (n : Nat) : Char := Char.ofNat (if n < 10 then 0x30 + n else 0x57 + n)

/-- The last `width` hexadecimal digits of a number. -/
def hexDigits (width n : Nat) : List Char :=
  match width with
  | 0 => []
  | w + 1 => hexDigits w (n / 16) ++ [hexDigit (n % 16)]

/-- The quote that goes around a text. -/
def quoteMark (cs : List Char) : Char := if '\'' ∈ cs ∧ '"' ∉ cs then '"' else '\''

/-- A character as it is written between two quotes. -/
def escapeChar (mark c : Char) : List Char :=
  if c = mark ∨ c = '\\' then ['\\', c]
  else if c = '\n' then ['\\', 'n']
  else if c = '\r' then ['\\', 'r']
  else if c = '\t' then ['\\', 't']
  else if isPrintable c then [c]
  else if c.toNat < 0x100 then '\\' :: 'x' :: hexDigits 2 c.toNat
  else if c.toNat < 0x10000 then '\\' :: 'u' :: hexDigits 4 c.toNat
  else '\\' :: 'U' :: hexDigits 8 c.toNat

/-- The quoted form of a text, as characters. -/
def quoteChars (cs : List Char) : List Char :=
  quoteMark cs :: cs.flatMap (escapeChar (quoteMark cs)) ++ [quoteMark cs]

def quote (s : String) : String := String.ofList (quoteChars s.toList)

end ProxyLog.Text
