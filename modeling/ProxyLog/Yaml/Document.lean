import ProxyLog.Yaml.Node
import ProxyLog.Yaml.Scalar

/-!
# Reading a configuration text

The notation without tags, anchors and block scalars, and without times of day.

* `Value.putEntry key value entries`: a mapping with one more entry.
* `Yaml.read`: a reader of this part of the notation.
-/

set_option autoImplicit false

namespace ProxyLog.Yaml

/-! ## Characters -/

/-- The characters that a document may hold. -/
def isAllowed (c : Char) : Bool :=
  let n := c.toNat
  n == 9 || n == 10 || n == 13 || (0x20 ≤ n && n ≤ 0x7e) || n == 0x85 || (0xa0 ≤ n && n ≤ 0xd7ff) ||
    (0xe000 ≤ n && n ≤ 0xfffd) || 0x10000 ≤ n

/-! ## Entries -/

/-- Only values without parts can be keys. -/
def Value.isKey : Value → Bool
  | .sequence _ | .mapping _ => false
  | _ => true

/-- Puts an entry into a mapping. A known key stays as it was written first and takes the new
value. -/
def Value.putEntry (key value : Value) : List (Value × Value) → List (Value × Value)
  | [] => [(key, value)]
  | entry :: rest =>
    if sameKey entry.1 key then (entry.1, value) :: rest else entry :: putEntry key value rest

/-! ## Values -/

/-- The value of a plain scalar. The words for merging and for default values stand for no value. -/
def readPlain (word : String) : Except Fault Value :=
  if word = "=" || word = "<<" then .error .malformed
  else if Number.digitLimit < decimalDigits word.toList then
    .error (.escaped ⟨.value, Number.tooManyDigitsMessage (decimalDigits word.toList)⟩)
  else match dateOf? word with
    | some date => (date.map .foreign).mapError .escaped
    | none => .ok (plainValue word)

mutual

def Node.value : Node → Except Fault Value
  | .plain word => readPlain word
  | .quoted s => .ok (.text s)
  | .sequence items => do pure (.sequence (← valuesOf items))
  | .mapping entries => do pure (.mapping (← entriesOf [] entries))

def valuesOf : List Node → Except Fault (List Value)
  | [] => .ok []
  | item :: rest => do pure ((← item.value) :: (← valuesOf rest))

/-- The entries of a mapping behind those already there. The word for default values may be a
key. -/
def entriesOf (entries : List (Value × Value)) : List (Node × Node) → Except Fault (List (Value × Value))
  | [] => .ok entries
  | (key, value) :: rest => do
    let k ←
      match key with
      | .plain "=" => pure (Value.text "=")
      | key => key.value
    if !k.isKey then .error .malformed
    let v ← value.value
    entriesOf (Value.putEntry k v entries) rest

end

/-! ## Texts -/

def read : Reader := fun text =>
  let cs := text.toList
  if !cs.all isAllowed then .error .malformed
  else
    match (tokens? cs).bind Node.ofTokens? with
    | none => .error .malformed
    | some none => .ok .null
    | some (some node) => node.value

end ProxyLog.Yaml
