import ProxyLog.Text.CaseTable
import ProxyLog.Text.Span

/-!
# Upper and lower case

The full case mappings: a character may become several, and a capital sigma at the end of a word
becomes the final form.

* `upperOf c`, `lowerOf c`: the mapping of one character, out of context.
* `toUpper s`, `toLower s`: the mapping of a text.
* `asciiUpper`, `asciiLower`: the mapping of the letters `a` to `z` alone, which is all that header
  names and URL schemes need.
-/

set_option autoImplicit false

namespace ProxyLog.Text

/-! ## One character -/

/-- The upper case of `a` to `z`; any other character stays. -/
def asciiUpper (c : Char) : Char :=
  if 0x61 ≤ c.toNat ∧ c.toNat ≤ 0x7a then Char.ofNat (c.toNat - 0x20) else c

/-- The lower case of `A` to `Z`; any other character stays. -/
def asciiLower (c : Char) : Char :=
  if 0x41 ≤ c.toNat ∧ c.toNat ≤ 0x5a then Char.ofNat (c.toNat + 0x20) else c

/-- The image of a code point under the first span that covers it. -/
def shiftBy (spans : List CaseSpan) (n : Nat) : Nat :=
  match spans.find? (·.covers n) with
  | some s => (n + s.shift).toNat
  | none => n

def upperOf (c : Char) : List Char :=
  if c.toNat < 0x80 then [asciiUpper c]
  else match upperExpansions.lookup c.toNat with
    | some codes => codes.map Char.ofNat
    | none => [Char.ofNat (shiftBy upperSpans c.toNat)]

/-- The lower case of a character, out of context. Only the capital I with a dot above becomes two
characters. -/
def lowerOf (c : Char) : List Char :=
  if c.toNat < 0x80 then [asciiLower c]
  else if c = '\u0130' then ['i', '\u0307']
  else [Char.ofNat (shiftBy lowerSpans c.toNat)]

/-! ## Texts -/

/-- The first character that counts beside a sigma is a letter with case. -/
def meetsCased (cs : List Char) : Bool :=
  match cs.dropWhile fun c => inSpans caseIgnorable c.toNat with
  | [] => false
  | c :: _ => inSpans cased c.toNat

/-- The lower case of a text; `before` is what precedes it, nearest character first. -/
def lowerChars (before : List Char) : List Char → List Char
  | [] => []
  | c :: cs =>
    let image :=
      if c = 'Σ' then (if meetsCased before && !meetsCased cs then ['ς'] else ['σ']) else lowerOf c
    image ++ lowerChars (c :: before) cs

def toUpper (s : String) : String := String.ofList (s.toList.flatMap upperOf)

def toLower (s : String) : String := String.ofList (lowerChars [] s.toList)

end ProxyLog.Text
