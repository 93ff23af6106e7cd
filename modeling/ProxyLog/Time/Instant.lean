import ProxyLog.Time.Calendar

/-!
# Instants

* `Instant`: microseconds since 1970, in universal time, within the years 1 to 9999.
* `Instant.ofText s`: the instant of a number of seconds since 1970.
* `Instant.before t d`: the instant that is a duration earlier.
* `Instant.timestamp t`: the whole seconds since 1970.
* `Instant.text t`: date and time, with microseconds unless they are zero.
-/

set_option autoImplicit false

namespace ProxyLog

/-- A point in universal time. -/
structure Instant where
  micros : Int
  deriving DecidableEq, Repr

/-- The year can be written with four digits and is not zero. -/
def isCalendarYear (year : Int) : Bool := 1 ≤ year && year ≤ 9999

/-- The instant of a number of microseconds since 1970, if its year is one of the calendar. -/
def Instant.ofMicros (micros : Int) : Except TimeFault Instant :=
  if isCalendarYear (yearOf (micros.fdiv microsPerSecond)) then .ok ⟨micros⟩
  else .error .dateOutOfRange

/-- A whole number of seconds since 1970 is one that the calendar has. Seconds are counted
in 64 bits, years from 1900 in 32 bits, and a year is named in 32 bits. -/
def checkSeconds (seconds : Int) : Except TimeFault Unit :=
  let year := yearOf seconds
  if seconds < -0x8000000000000000 ∨ 0x8000000000000000 ≤ seconds then .error .clockTooWide
  else if year - 1900 < -0x80000000 ∨ 0x80000000 ≤ year - 1900 then .error .yearTooWide
  else if isCalendarYear year then .ok ()
  else .error (.yearOutOfRange (year.bmod 0x100000000))

/-- The instant of a number of seconds since 1970. -/
def Instant.ofText (s : String) : Except TimeFault Instant := do
  let (whole, micros) ← readSeconds s
  checkSeconds whole
  Instant.ofMicros (whole * microsPerSecond + micros)

/-- The instant a duration earlier. -/
def Instant.before (t : Instant) (d : Duration) : Except TimeFault Instant :=
  Instant.ofMicros (t.micros - d.micros)

/-- The whole seconds since 1970. -/
def Instant.timestamp (t : Instant) : Int := wholeSeconds t.micros

def Instant.text (t : Instant) : String :=
  let seconds := t.micros.fdiv microsPerSecond
  let micros := (t.micros - seconds * microsPerSecond).toNat
  let days := seconds.fdiv secondsPerDay
  let clock := (seconds - days * secondsPerDay).toNat
  let date := CivilDate.ofDays days
  padded 4 date.year.toNat ++ "-" ++ padded 2 date.month ++ "-" ++ padded 2 date.day ++ "T" ++
    padded 2 (clock / 3600) ++ ":" ++ padded 2 (clock / 60 % 60) ++ ":" ++ padded 2 (clock % 60) ++
    (if micros = 0 then "" else "." ++ padded 6 micros) ++ "+00:00"

end ProxyLog
