import ProxyLog.Fault
import ProxyLog.Text.Quoted

/-!
# What can be wrong with a time

* `TimeFault`: why a text stands for no duration or no instant.
* `TimeFault.kind`: the kind that it is raised as; `TimeFault.message` is what is said about it.
-/

set_option autoImplicit false

namespace ProxyLog

/-- Why a text stands for no duration or no instant. -/
inductive TimeFault
  /-- The text is no number. -/
  | notNumber (text : String)
  /-- The number is the one that is no number. -/
  | undefined
  /-- The number is infinite. -/
  | infinite
  /-- A duration of more days than are allowed. -/
  | tooManyDays (days : Int)
  /-- A duration whose days do not fit in 32 bits. -/
  | daysTooWide
  /-- Seconds since 1970 that do not fit in 64 bits. -/
  | clockTooWide
  /-- A year that does not fit in 32 bits. -/
  | yearTooWide
  /-- A year outside 1 to 9999. -/
  | yearOutOfRange (year : Int)
  /-- A fraction or a shift that leaves the years 1 to 9999. -/
  | dateOutOfRange
  deriving DecidableEq, Repr

def TimeFault.kind : TimeFault → FaultKind
  | .notNumber _ | .undefined | .yearOutOfRange _ => .value
  | .infinite | .tooManyDays _ | .daysTooWide | .clockTooWide | .dateOutOfRange => .overflow
  | .yearTooWide => .platform

def TimeFault.message : TimeFault → String
  | .notNumber text => "could not convert string to float: " ++ Text.quote text
  | .undefined => "cannot convert float NaN to integer"
  | .infinite => "cannot convert float infinity to integer"
  | .tooManyDays days => s!"days={days}; must have magnitude <= 999999999"
  | .daysTooWide => "Python int too large to convert to C int"
  | .clockTooWide => "timestamp out of range for platform time_t"
  | .yearTooWide => "[Errno 75] Value too large for defined data type"
  | .yearOutOfRange year => s!"year {year} is out of range"
  | .dateOutOfRange => "date value out of range"

def TimeFault.raised (fault : TimeFault) : Raised := ⟨fault.kind, fault.message⟩

end ProxyLog
