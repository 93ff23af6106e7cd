import ProxyLog.Log.Notice
import ProxyLog.Record.Tag

/-!
# What can be wrong with a log

* `LogFault`: how a log breaks its grammar, with the line where it does.
* `LogFault.message`, `LogFault.line`, `LogFault.expected`: what is reported about it.
* `Failure`: why reading a log stops, at such a fault or at one that was not caught: an integer with too many digits,
  or anything else that was raised.
-/

set_option autoImplicit false

namespace ProxyLog

/-- How a log breaks its grammar. -/
inductive LogFault
  /-- A line has fewer than two fields. -/
  | tooFewFields (line : String)
  /-- A value breaks the grammar of its tag. -/
  | badValue (family : Family) (fault : FieldFault) (line : String)
  /-- A start line has not five fields. -/
  | badStartLine (line : String)
  /-- A start line names no kind of transaction. -/
  | unknownKind (kind line : String)
  /-- A start line has no transaction id. -/
  | badStartVxid (fault : VxidFault) (line : String)
  /-- A marker is neither all stars nor a number among stars. -/
  | badLevel (marker : String)
  /-- A transaction opens with another tag. -/
  | beginExpected (tag line : String)
  /-- The log ends after a start line. -/
  | beginMissing (startLine : String)
  /-- An empty line follows a start line. -/
  | beginBlank (startLine : String)
  /-- A transaction is opened a second time. -/
  | beginRepeated (vxid : Int) (line : String)
  /-- The log ends inside a transaction. -/
  | endMissing (startLine : String)
  deriving DecidableEq, Repr

namespace LogFault

def message : LogFault → String
  | tooFewFields line => "could not parse line " ++ Text.quote line
  | badValue family fault line =>
    s!"conversion to {family.name} failed, {fault.message family} on line {Text.quote line}"
  | badStartLine line => "invalid transaction start line " ++ Text.quote line
  | unknownKind kind line =>
    s!"unknown transaction type {Text.quote kind} on line {Text.quote line}, known types: " ++
      "['Session', 'Request', 'BeReq']"
  | badStartVxid fault line => s!"incorrect vxid found on line {Text.quote line}: {fault.message}"
  | badLevel marker => "invalid level marker " ++ Text.quote marker
  | beginExpected tag line =>
    s!"parser error: expected {beginTag} tag, found {Text.quote tag} on line {Text.quote line}"
  | beginMissing startLine =>
    s!"parser error: expected {beginTag} tag, found EOF after {Text.quote startLine}"
  | beginBlank startLine =>
    s!"parser error: expected {beginTag} tag, found empty line after {Text.quote startLine}"
  | beginRepeated vxid _ =>
    s!"parser error: duplicate {Text.quote beginTag} tag found in the middle of transaction {vxid}"
  | endMissing startLine =>
    s!"parser error: transaction {Text.quote startLine} finished without {endTag} tag at EOF"

def line : LogFault → String
  | tooFewFields line | badValue _ _ line | badStartLine line | unknownKind _ line
  | badStartVxid _ line | badLevel line | beginExpected _ line | beginMissing line
  | beginBlank line | beginRepeated _ line | endMissing line => line

/-- The tag that was expected there, if one was. -/
def expected : LogFault → Option String
  | beginExpected .. | beginMissing _ | beginBlank _ => some beginTag
  | beginRepeated .. | endMissing _ => some endTag
  | _ => none

end LogFault

/-- Why reading a log stops. -/
inductive Failure
  | malformed (fault : LogFault)
  | tooManyDigits (count : Nat)
  | escaped (raised : Raised)
  deriving DecidableEq, Repr

def Failure.message : Failure → String
  | malformed fault => fault.message
  | tooManyDigits count => Number.tooManyDigitsMessage count
  | escaped raised => raised.message

end ProxyLog
