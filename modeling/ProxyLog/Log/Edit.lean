import ProxyLog.Log.Reading

/-!
# Edits of a log that change nothing

* `isBetween maxDepth lines`: after these lines the reader has no transaction open.
* `isStarted maxDepth lines`: the last of these lines was taken as a start line.
* `Edit maxDepth old new`: one change of a log that does not matter: blanks at the ends of a line, a
  line of fewer than two fields that does not follow a start line, or noise between transactions.
* `SameLog maxDepth old new`: any number of such edits, in both directions.
-/

set_option autoImplicit false

namespace ProxyLog

/-! ## Places -/

/-- After these lines no transaction is open. -/
def isBetween (maxDepth : Int) (lines : List String) : Bool :=
  match (Reading.readAll (pure (.start maxDepth)) lines).result with
  | .ok ⟨_, .between⟩ => true
  | _ => false

/-- The last of these lines was taken as a start line. -/
def isStarted (maxDepth : Int) (lines : List String) : Bool :=
  match (Reading.readAll (pure (.start maxDepth)) lines).result with
  | .ok ⟨_, .started _⟩ => true
  | _ => false

/-! ## Edits -/

/-- One change that does not matter. -/
inductive Edit (maxDepth : Int) : List String → List String → Prop
  /-- Blanks at the ends of a line. -/
  | pad (front back : List String) {old new : String} (h : Text.strip old = Text.strip new) :
      Edit maxDepth (front ++ old :: back) (front ++ new :: back)
  /-- A line of fewer than two fields, not directly behind a start line. -/
  | short (front back : List String) {line : String} (h : hasTwoFields (Text.strip line) = false)
      (hplace : isStarted maxDepth front = false) : Edit maxDepth (front ++ back) (front ++ line :: back)
  /-- A line that starts no transaction, where none is open. -/
  | noise (front back : List String) {line : String} (h : isStartLine (Text.strip line) = false)
      (hplace : isBetween maxDepth front = true) : Edit maxDepth (front ++ back) (front ++ line :: back)

/-- Any number of edits, done or undone. -/
inductive SameLog (maxDepth : Int) : List String → List String → Prop
  | refl (lines : List String) : SameLog maxDepth lines lines
  | edit {first old new : List String} (h : SameLog maxDepth first old) (he : Edit maxDepth old new) :
      SameLog maxDepth first new
  | undo {first old new : List String} (h : SameLog maxDepth first new) (he : Edit maxDepth old new) :
      SameLog maxDepth first old

/-! ## Short lines -/

/-- The empty line has no field. -/
theorem hasTwoFields_empty : hasTwoFields "" = false := by
  simp [hasTwoFields, splitChars, Text.afterWord, Text.trimStart]

end ProxyLog
