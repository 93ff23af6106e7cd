import ProxyLog.Log.Fault
import ProxyLog.Log.Outcome

/-!
# Body lines

A body line is a marker, a tag and a value, for instance `--  ReqURL   /index.html`.

* `splitChars cs`: the tag and the value of a line without blanks at its ends; none when it has
  fewer than two fields.
* `splitLine line`: the same for any line, as a result or a fault.
* `Record.ofParts tag value line`: the record of a tag and a value; a value that breaks the tag's
  grammar is a fault, and an unknown tag makes a generic record and a notice.
* `Record.ofLine line`: the record of a line; `Record.FromLine r` says that `r` is such a record.
-/

set_option autoImplicit false

namespace ProxyLog

/-- The tag and the value of a trimmed line. -/
def splitChars (cs : List Char) : Option (List Char × List Char) :=
  match Text.afterWord cs with
  | [] => none
  | rest => some (Text.firstWord rest, Text.afterWord rest)

/-- A trimmed line has at least two fields. -/
def hasTwoFields (line : String) : Bool := (splitChars line.toList).isSome

/-- The tag and the value of a line. -/
def splitLine (line : String) : Except Failure (String × String) :=
  match splitChars (Text.trim line.toList) with
  | some (tag, value) => .ok (String.ofList tag, String.ofList value)
  | none => .error (.malformed (.tooFewFields line))

def ValueFault.toFailure (family : Family) (line : String) : ValueFault → Failure
  | field fault => .malformed (.badValue family fault line)
  | tooManyDigits count => .tooManyDigits count
  | escaped raised => .escaped raised

/-- The record of a tag and a value on a line. -/
def Record.ofParts (tag value line : String) : Outcome Failure Record :=
  match grammarOf? tag with
  | none => do
    Outcome.note (.unknownTag tag line)
    pure ⟨tag, value, line, .generic⟩
  | some grammar =>
    match grammar.read value with
    | .ok payload => pure ⟨tag, value, line, payload⟩
    | .error fault => Outcome.fail (fault.toFailure grammar.family line)

/-- The record of a body line. -/
def Record.ofLine (line : String) : Outcome Failure Record := do
  let stripped := Text.strip line
  let (tag, value) ← Outcome.ofExcept (splitLine stripped)
  Record.ofParts tag value stripped

/-- The record was read from some line. -/
def Record.FromLine (r : Record) : Prop := ∃ line, (Record.ofLine line).result = .ok r

/-- The parts of the trimmed line make the record. -/
theorem Record.ofLine_result (line : String) :
    (Record.ofLine line).result =
      (splitLine (Text.strip line)).bind fun parts =>
        (Record.ofParts parts.1 parts.2 (Text.strip line)).result := by
  rw [ofLine, Outcome.bind_result, Outcome.ofExcept]

/-- A line is trimmed before it is read, so blanks at its ends do not matter. -/
theorem Record.ofLine_congr {a b : String} (h : Text.strip a = Text.strip b) :
    Record.ofLine a = Record.ofLine b := by
  simp [ofLine, h]

end ProxyLog
