import ProxyLog.Number.Digits
import ProxyLog.Time.Fault

/-!
# Durations

* `Duration`: a signed number of microseconds.
* `readSeconds s`: a number of seconds as whole seconds and microseconds. The text is first read as
  a double; its fraction is taken to microseconds, rounded once as a double and then to the nearest
  integer, ties to even.
* `Duration.ofText s`: a duration of at most 999999999 days.
* `Duration.seconds d`: the double nearest to the number of seconds.
* `Duration.text d`: the seconds without needless zeros, and an `s`.
-/

set_option autoImplicit false

namespace ProxyLog

open Number

/-- A signed length of time. -/
structure Duration where
  micros : Int
  deriving DecidableEq, Repr

def microsPerSecond : Nat := 1000000

def secondsPerDay : Nat := 86400

/-! ## Reading -/

/-- The whole seconds and the microseconds, of the same sign, that a text writes. -/
def readSeconds (s : String) : Except TimeFault (Int × Int) :=
  match readReal s with
  | none => .error (.notNumber s)
  | some .nan => .error .undefined
  | some (.infinite _) => .error .infinite
  | some (.finite negative mantissa exponent) =>
    let micros :=
      match (Binary64.fraction negative mantissa exponent).mulNat microsPerSecond with
      | .finite n m e => Binary64.roundInt n m e
      | _ => 0
    .ok (Binary64.truncate negative mantissa exponent, micros)

def maxDays : Int := 999999999

/-- The duration of a number of microseconds, if it is not too long. Days are counted in 32 bits. -/
def Duration.ofMicros (micros : Int) : Except TimeFault Duration :=
  let days := micros.fdiv (microsPerSecond * secondsPerDay)
  if days < -0x80000000 ∨ 0x80000000 ≤ days then .error .daysTooWide
  else if days < -maxDays ∨ maxDays < days then .error (.tooManyDays days)
  else .ok ⟨micros⟩

/-- The duration that a number of seconds writes. -/
def Duration.ofText (s : String) : Except TimeFault Duration := do
  let (whole, micros) ← readSeconds s
  Duration.ofMicros (whole * microsPerSecond + micros)

/-! ## Writing -/

/-- The double nearest to a number of microseconds in seconds. -/
def secondsOf (micros : Int) : Binary64 := .ofQuotient (micros < 0) micros.natAbs microsPerSecond

def Duration.seconds (d : Duration) : Binary64 := secondsOf d.micros

/-- The whole seconds of a number of microseconds, by way of the nearest double. -/
def wholeSeconds (micros : Int) : Int :=
  match secondsOf micros with
  | .finite n m e => Binary64.truncate n m e
  | _ => 0

/-- The text of a duration: an integer if the double is one, else up to six decimal places. -/
def Duration.text (d : Duration) : String :=
  match d.seconds with
  | .finite n m e =>
    let (num, den) := Binary64.quotient m e
    if num % den = 0 then s!"{Binary64.truncate n m e}s"
    else String.ofList (Text.dropTrailing (· == '0') (fixedText 6 n m e).toList) ++ "s"
  | _ => ""

end ProxyLog
