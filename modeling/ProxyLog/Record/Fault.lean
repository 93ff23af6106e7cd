import ProxyLog.Fault
import ProxyLog.Number.Decimal
import ProxyLog.Record.Family

/-!
# What can be wrong with a value

* `VxidFault`: why a text is no transaction id.
* `FieldFault`: how a value breaks the grammar of its family.
* `ValueFault`: a value that cannot be read, for such a fault or for one that was not caught: an integer with too many
  digits, or anything else that was raised.
* `FieldFault.message family fault`: what is said about a fault.
-/

set_option autoImplicit false

namespace ProxyLog

/-- Why a text is no transaction id. -/
inductive VxidFault
  | notDecimal (text : String)
  | outOfRange (text : String)
  | tooManyDigits (count : Nat)
  deriving DecidableEq, Repr

def VxidFault.message : VxidFault → String
  | notDecimal text => "invalid VXID " ++ Text.quote text
  | outOfRange text => "VXID " ++ Text.quote text ++ " out of range"
  | tooManyDigits count => Number.tooManyDigitsMessage count

/-- Whatever is wrong with an id, it is a bad value. -/
def VxidFault.raised (fault : VxidFault) : Raised := ⟨.value, fault.message⟩

@[simp] theorem catching_vxidFault {δ α : Type} (told : VxidFault → δ) (escaped : Raised → δ) (x : Except VxidFault α) :
    catching [.value] VxidFault.raised told escaped x = x.mapError told :=
  catching_eq_mapError fun _ _ => List.mem_singleton_self _

/-- How a value breaks the grammar of its family. -/
inductive FieldFault
  /-- The value has not the number of parts it should have. -/
  | wrongCount
  /-- A part is no number or time. -/
  | badField (what : String)
  /-- A part is no address. -/
  | badAddress (what : String)
  /-- A part is no transaction id. -/
  | badVxid (fault : VxidFault)
  /-- A link of four parts is none to an ESI subrequest. -/
  | notEsi
  /-- A header has no colon. -/
  | noSeparator
  /-- The URL cannot be cut. -/
  | badUrl
  /-- A body is neither streamed nor not. -/
  | unknownStream
  deriving DecidableEq, Repr

def Family.countMessage : Family → String
  | .sessionClose => "invalid len"
  | .lifetime => "incorrect len (wanted 6 or 10)"
  | _ => "incorrect len"

def FieldFault.message (family : Family) : FieldFault → String
  | wrongCount => family.countMessage
  | badField what => "bad field " ++ what
  | badAddress what => "bad " ++ what
  | badVxid fault => "bad VXID (" ++ fault.message ++ ")"
  | notEsi => "len is 4 but it is not an ESI"
  | noSeparator => "missing ':' separator"
  | badUrl => "could not parse URL"
  | unknownStream => "unknown value for stream"

/-- A value that cannot be read. -/
inductive ValueFault
  | field (fault : FieldFault)
  /-- An integer with too many digits, which is not caught. -/
  | tooManyDigits (count : Nat)
  /-- Something else that is not caught. -/
  | escaped (raised : Raised)
  deriving DecidableEq, Repr

end ProxyLog
