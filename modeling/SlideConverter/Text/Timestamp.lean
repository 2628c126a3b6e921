/-!
# Moments as text

A moment is a number of nanoseconds since the beginning of 1970. It is written as a date
and a time of day in UTC, with as many decimal places as it needs. Years are counted from
March, so that a leap day is the last day of its year.
-/

namespace SlideConverter.Text

structure Date where
  year : Nat
  month : Nat
  day : Nat
deriving DecidableEq

/-- Days from the first of March of year 0 to the beginning of 1970. -/
def daysBefore1970 : Nat := 719468

/-- Days in four hundred years. -/
def daysOfEra : Nat := 146097

/-- The date of the day that comes `days` days after the first of January 1970. -/
def Date.ofDays (days : Nat) : Date :=
  let shifted := days + daysBefore1970
  let era := shifted / daysOfEra
  let dayOfEra := shifted % daysOfEra
  let yearOfEra :=
    (dayOfEra - dayOfEra / 1460 + dayOfEra / 36524 - dayOfEra / 146096) / 365
  let dayOfYear := dayOfEra - (365 * yearOfEra + yearOfEra / 4 - yearOfEra / 100)
  let shiftedMonth := (5 * dayOfYear + 2) / 153
  let month := if shiftedMonth < 10 then shiftedMonth + 3 else shiftedMonth - 9
  { year := era * 400 + yearOfEra + (if month ≤ 2 then 1 else 0)
    month
    day := dayOfYear - (153 * shiftedMonth + 2) / 5 + 1 }

def padded (width n : Nat) : String :=
  String.ofList ((List.range width).reverse.map fun i => (n / Nat.pow 10 i % 10).digitChar)

/-- The fraction of a second, without zeros at the end. -/
def fractionText (nanoseconds : Nat) : String :=
  let digits := ((padded 9 nanoseconds).toList.reverse.dropWhile (· = '0')).reverse
  if digits.isEmpty then "" else "." ++ String.ofList digits

def timestamp (nanoseconds : Nat) : String :=
  let seconds := nanoseconds / 1000000000
  let date := Date.ofDays (seconds / 86400)
  let time := seconds % 86400
  padded 4 date.year ++ "-" ++ padded 2 date.month ++ "-" ++ padded 2 date.day ++ "T"
    ++ padded 2 (time / 3600) ++ ":" ++ padded 2 (time / 60 % 60) ++ ":" ++ padded 2 (time % 60)
    ++ fractionText (nanoseconds % 1000000000) ++ "Z"

end SlideConverter.Text
