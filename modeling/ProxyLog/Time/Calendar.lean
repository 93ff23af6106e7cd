import ProxyLog.Time.Duration

/-!
# The calendar

* `CivilDate`, `CivilDate.ofDays n`: the date that is `n` days after the first of January 1970, in
  the Gregorian calendar carried on in both directions.
* `yearOf seconds`: the year of a number of seconds since then.
* `padded width n`: a number with zeros in front.
-/

set_option autoImplicit false

namespace ProxyLog

/-- A day of the Gregorian calendar. -/
structure CivilDate where
  year : Int
  month : Nat
  day : Nat
  deriving DecidableEq, Repr

/-- The days of 400 years. -/
def daysPerEra : Int := 146097

/-- The date of a day, counted from the first of January 1970. Years are taken to start in March,
so that the leap day is the last day of a year. -/
def CivilDate.ofDays (days : Int) : CivilDate :=
  let shifted := days + 719468
  let era := shifted.fdiv daysPerEra
  let dayOfEra := (shifted - era * daysPerEra).toNat
  let yearOfEra := (dayOfEra - dayOfEra / 1460 + dayOfEra / 36524 - dayOfEra / 146096) / 365
  let dayOfYear := dayOfEra - (365 * yearOfEra + yearOfEra / 4 - yearOfEra / 100)
  let monthFromMarch := (5 * dayOfYear + 2) / 153
  let month := if monthFromMarch < 10 then monthFromMarch + 3 else monthFromMarch - 9
  { year := yearOfEra + era * 400 + (if month ≤ 2 then 1 else 0)
    month := month
    day := dayOfYear - (153 * monthFromMarch + 2) / 5 + 1 }

/-- The year of a number of seconds since 1970. -/
def yearOf (seconds : Int) : Int := (CivilDate.ofDays (seconds.fdiv secondsPerDay)).year

/-- A number with zeros in front, up to a width. -/
def padded (width n : Nat) : String :=
  let digits := Nat.toDigits 10 n
  String.ofList (List.replicate (width - digits.length) '0' ++ digits)

end ProxyLog
