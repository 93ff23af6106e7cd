import ProxyLog.Fault
import ProxyLog.Number.Digits

/-!
# Values of configuration files

* `Yaml.Value`: what a document stands for; `Yaml.Foreign` is all that is asked of values of other types.
* `Yaml.Reader`: reads the value of a document, or finds a `Yaml.Fault`.
* `Value.sameKey a b`: two keys of a mapping that count as one. Truth values and numbers are
  compared as numbers.
* `Value.shown v`: the form in which messages show a value; `Value.plain v` is the same without
  quotes around a text. A value with `Value.hasLongInteger` can be written neither way.
* `Value.isFalsy v`, `Value.typeName v`: empty or zero values, and the words for types.
-/

set_option autoImplicit false

namespace ProxyLog.Yaml

open Number

/-- A value of another kind, such as a date, a string of octets, a set or a list that holds itself, by all that is
asked of it. -/
structure Foreign where
  typeName : String
  /-- The text that it stands for. -/
  plain : String
  /-- The form in which messages show it. -/
  shown : String
  /-- It is empty. -/
  isFalsy : Bool
  /-- It has an integer that is too long to be written. -/
  hasLongInteger : Bool
  /-- What comes of asking it for an integer. -/
  integer : Except Raised Int
  deriving Repr

/-- What a document, or a part of one, stands for. -/
inductive Value
  | null
  | bool (b : Bool)
  | int (n : Int)
  | float (x : Binary64)
  | text (s : String)
  | sequence (items : List Value)
  | mapping (entries : List (Value × Value))
  | foreign (v : Foreign)
  deriving Repr

/-- Why a text is no document. -/
inductive Fault
  /-- The text breaks the notation. -/
  | malformed
  /-- Something else was raised on the way. -/
  | escaped (raised : Raised)
  deriving DecidableEq, Repr

/-- Reads the value of the document in a text; null if there is none. -/
abbrev Reader := String → Except Fault Value

/-- What is said when a value of a type without integers is asked for one. -/
def noIntegerMessage (typeName : String) : String :=
  s!"int() argument must be a string, a bytes-like object or a real number, not '{typeName}'"

namespace Value

/-! ## Keys -/

/-- The integer that a finite double equals, if there is one. -/
def wholeFloat? : Binary64 → Option Int
  | .finite negative mantissa exponent =>
    let (num, den) := Binary64.quotient mantissa exponent
    if num % den = 0 then some (Binary64.truncate negative mantissa exponent) else none
  | _ => none

/-- The integer that a value equals as a number, if there is one. -/
def asInteger? : Value → Option Int
  | bool b => some (if b then 1 else 0)
  | int n => some n
  | float x => wholeFloat? x
  | _ => none

/-- Two keys that count as one. Values of other types that are shown alike are alike. -/
def sameKey (a b : Value) : Bool :=
  match asInteger? a, asInteger? b with
  | some m, some n => m == n
  | some _, none | none, some _ => false
  | none, none =>
    match a, b with
    | null, null => true
    | text s, text t => s == t
    | float x, float y => x == y
    | foreign x, foreign y => x.typeName == y.typeName && x.shown == y.shown
    | _, _ => false

/-! ## Text -/

/-- The words for truth values. -/
def boolText (b : Bool) : String := if b then "True" else "False"

mutual

/-- The form in which messages show a value. -/
def shown : Value → String
  | null => "None"
  | bool b => boolText b
  | int n => toString n
  | float x => x.toText
  | text s => Text.quote s
  | sequence items => "[" ++ shownItems items ++ "]"
  | mapping entries => "\x7b" ++ shownEntries entries ++ "\x7d"
  | foreign v => v.shown

/-- The items of a sequence with commas between them. -/
def shownItems : List Value → String
  | [] => ""
  | [v] => shown v
  | v :: rest => shown v ++ ", " ++ shownItems rest

/-- The entries of a mapping with commas between them. -/
def shownEntries : List (Value × Value) → String
  | [] => ""
  | [(k, v)] => shown k ++ ": " ++ shown v
  | (k, v) :: rest => shown k ++ ": " ++ shown v ++ ", " ++ shownEntries rest

end

def plain : Value → String
  | text s => s
  | foreign v => v.plain
  | v => shown v

mutual

/-- An integer of the value has more digits than are ever written. -/
def hasLongInteger : Value → Bool
  | int n => digitLimit < digitCount n.natAbs
  | sequence items => anyLongItem items
  | mapping entries => anyLongEntry entries
  | foreign v => v.hasLongInteger
  | _ => false

def anyLongItem : List Value → Bool
  | [] => false
  | v :: rest => hasLongInteger v || anyLongItem rest

def anyLongEntry : List (Value × Value) → Bool
  | [] => false
  | (k, v) :: rest => hasLongInteger k || hasLongInteger v || anyLongEntry rest

end

/-! ## Kinds -/

/-- The value is empty, zero or false. -/
def isFalsy : Value → Bool
  | null | bool false | text "" | sequence [] | mapping [] => true
  | int n => n == 0
  | float (.finite _ mantissa _) => mantissa == 0
  | foreign v => v.isFalsy
  | _ => false

def typeName : Value → String
  | null => "NoneType"
  | bool _ => "bool"
  | int _ => "int"
  | float _ => "float"
  | text _ => "str"
  | sequence _ => "list"
  | mapping _ => "dict"
  | foreign v => v.typeName

end Value

end ProxyLog.Yaml
