import ProxyLog.Net.Address
import ProxyLog.Text.Utf8

/-!
# Query strings

A query is a list of names and values, each in escaped form.

* `unescape`, `escape`: the plain form of an escaped text, and back. A plus sign is a space, and
  `%` with two hexadecimal digits an octet; octets that are no UTF-8 become U+FFFD.
* `fieldsOf query`: the names and values of a query; a part without an equals sign has the value
  `""`, and empty parts are skipped.
* `write fields`: the query of names and values.
* `canonical query`: the query with its fields sorted by name, then by value.
-/

set_option autoImplicit false

namespace ProxyLog.Net.Query

/-! ## Escapes -/

/-- The octets of a text of ASCII characters, escapes resolved. -/
def octetsOf : List Char → List UInt8
  | [] => []
  | '%' :: a :: b :: cs =>
    match Text.hexValue? a, Text.hexValue? b with
    | some x, some y => UInt8.ofNat (16 * x + y) :: octetsOf cs
    | _, _ => UInt8.ofNat '%'.toNat :: octetsOf (a :: b :: cs)
  | c :: cs => UInt8.ofNat c.toNat :: octetsOf cs

/-- Resolves the escapes in each run of ASCII characters; `run` holds the current one, last
character first. -/
def unescapeFrom (run : List Char) : List Char → List Char
  | [] => Text.Utf8.decodeLossy (octetsOf run.reverse)
  | c :: cs =>
    if c.toNat < 0x80 then unescapeFrom (c :: run) cs
    else Text.Utf8.decodeLossy (octetsOf run.reverse) ++ c :: unescapeFrom [] cs

/-- The plain form of an escaped text. -/
def unescape (cs : List Char) : List Char :=
  unescapeFrom [] (cs.map fun c => if c = '+' then ' ' else c)

/-- The character stands for itself in an escaped text. -/
def isPlain (c : Char) : Bool := c.isAlphanum || c == '_' || c == '.' || c == '-' || c == '~'

/-- An upper-case hexadecimal digit. -/
def upperHexDigit (n : Nat) : Char := Char.ofNat (if n < 10 then 0x30 + n else 0x37 + n)

/-- An octet as `%` and two digits. -/
def escapeOctet (b : UInt8) : List Char :=
  ['%', upperHexDigit (b.toNat / 16), upperHexDigit (b.toNat % 16)]

/-- A character in escaped form. -/
def escapeChar (c : Char) : List Char :=
  if c = ' ' then ['+'] else if isPlain c then [c] else (Text.Utf8.encodeChar c).flatMap escapeOctet

def escape (cs : List Char) : List Char := cs.flatMap escapeChar

/-! ## Fields -/

/-- A name and its value. -/
structure Field where
  name : String
  value : String
  deriving DecidableEq, Repr

/-- The field of one part of a query. -/
def fieldOf (part : List Char) : Field :=
  let (name, value) := cutFirst '=' part
  ⟨String.ofList (unescape name), String.ofList (unescape (value.getD []))⟩

/-- The parts of a query between ampersands that are not empty. -/
def partsOf (query : List Char) : List (List Char) := (pieces '&' query).filter (!·.isEmpty)

def fieldsOf (query : String) : List Field := (partsOf query.toList).map fieldOf

def writeField (f : Field) : List Char := escape f.name.toList ++ '=' :: escape f.value.toList

/-- The query of names and values. -/
def write (fields : List Field) : String :=
  "&".intercalate (fields.map fun f => String.ofList (writeField f))

/-- The order of fields: by name, then by value, code point by code point. -/
def Field.le (a b : Field) : Bool :=
  decide (a.name < b.name) || (a.name == b.name && decide (a.value ≤ b.value))

/-- The query with its fields in order. -/
def canonical (query : String) : String := write ((fieldsOf query).mergeSort Field.le)

end ProxyLog.Net.Query
