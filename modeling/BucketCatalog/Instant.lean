import BucketCatalog.Text

/-!
# Instants

Points in time, counted in nanoseconds from the beginning of 1970 in UTC, their dates in the
Gregorian calendar extended to all years, and clocks that hand them out.
-/

namespace BucketCatalog

/-- A point in time. -/
structure Instant where
  /-- Nanoseconds since the beginning of 1970, negative before it. -/
  nanoseconds : Int
  deriving DecidableEq, Inhabited

/-- A day of the Gregorian calendar. -/
structure Date where
  /-- The year. -/
  year : Int
  /-- The month, from 1 to 12. -/
  month : Nat
  /-- The day of the month, from 1. -/
  day : Nat
  deriving DecidableEq

/--
The date of a day counted from the beginning of 1970.  Years are counted from the first of March, so
that a leap day is the last day of its year; the calendar repeats after 400 years, or 146097 days.
-/
def Date.ofDays (days : Int) : Date :=
  let shifted := days + 719468
  let era := shifted.fdiv 146097
  let dayOfEra := (shifted.fmod 146097).toNat
  let yearOfEra := (dayOfEra - dayOfEra / 1460 + dayOfEra / 36524 - dayOfEra / 146096) / 365
  let dayOfYear := dayOfEra - (365 * yearOfEra + yearOfEra / 4 - yearOfEra / 100)
  let shiftedMonth := (5 * dayOfYear + 2) / 153
  let month := if shiftedMonth < 10 then shiftedMonth + 3 else shiftedMonth - 9
  { year := era * 400 + yearOfEra + if month ≤ 2 then 1 else 0
    month := month
    day := dayOfYear - (153 * shiftedMonth + 2) / 5 + 1 }

namespace Instant

/-- The instant of whole seconds and nanoseconds. -/
def ofParts (seconds nanoseconds : Int) : Instant where
  nanoseconds := seconds * 1000000000 + nanoseconds

/-- The whole microseconds before an instant. -/
def microseconds (instant : Instant) : Int :=
  instant.nanoseconds.fdiv 1000

/-- The date of an instant. -/
def date (instant : Instant) : Date :=
  Date.ofDays (instant.microseconds.fdiv 86400000000)

/-- The microseconds of an instant since midnight. -/
def microsecondOfDay (instant : Instant) : Nat :=
  (instant.microseconds.fmod 86400000000).toNat

/-- The instant in UTC as date and time of day without separators, cut to microseconds. -/
def stamp (instant : Instant) : String :=
  let date := instant.date
  let time := instant.microsecondOfDay
  Text.padded 4 date.year.toNat ++ Text.padded 2 date.month ++ Text.padded 2 date.day ++ "T"
    ++ Text.padded 2 (time / 3600000000) ++ Text.padded 2 (time / 60000000 % 60)
    ++ Text.padded 2 (time / 1000000 % 60) ++ "." ++ Text.padded 6 (time % 1000000) ++ "Z"

end Instant

/-- A clock, which may answer anything: forth, back, or the same instant twice. -/
structure Clock where
  /-- What the reading of a number answers, counted from zero. -/
  instant : Nat → Instant
  /-- The number of readings so far. -/
  readings : Nat

namespace Clock

/-- A clock that moves by a number of nanoseconds from one reading to the next. -/
def steady (start : Instant) (step : Int) : Clock where
  instant := fun number => ⟨start.nanoseconds + number * step⟩
  readings := 0

/-- Read a clock. -/
def read (clock : Clock) : Instant × Clock :=
  (clock.instant clock.readings, { clock with readings := clock.readings + 1 })

end Clock
end BucketCatalog
