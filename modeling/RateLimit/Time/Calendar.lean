import RateLimit.Time.Span

/-!
# Dates

`CivilTime.ofSeconds` is the date and time of day, in the Gregorian calendar, of
a number of seconds since the beginning of 1970; it is defined for every
integer. A `Stamp` is such a time with microseconds whose year has four digits;
`Stamp.ofSeconds?` rounds a machine number of seconds and says which limit it
breaks, if any.

What clocks on a wall show depends on the `Zone` that they hang in.
-/

namespace RateLimit

open Number (Binary64)

/-- A date and a time of day. -/
structure CivilTime where
  year : Int
  month : Int
  day : Int
  hour : Int
  minute : Int
  second : Int
  deriving DecidableEq, Repr

/-- Days in a cycle of 400 years. -/
def cycleDays : Int := 146097

/-- Year, month and day of a number of days since the beginning of 1970. Years
are counted from March, so that the leap day comes last. -/
def civilDate (days : Int) : Int × Int × Int :=
  let shifted := days + 719468
  let cycle := shifted / cycleDays
  let dayOfCycle := shifted % cycleDays
  let yearOfCycle :=
    (dayOfCycle - dayOfCycle / 1460 + dayOfCycle / 36524 - dayOfCycle / 146096) / 365
  let dayOfYear := dayOfCycle - (365 * yearOfCycle + yearOfCycle / 4 - yearOfCycle / 100)
  let march := (5 * dayOfYear + 2) / 153
  let day := dayOfYear - (153 * march + 2) / 5 + 1
  let month := if march < 10 then march + 3 else march - 9
  let year := yearOfCycle + cycle * 400
  (if month ≤ 2 then year + 1 else year, month, day)

namespace CivilTime

/-- The date and the time of day of a number of seconds. -/
def ofSeconds (n : Int) : CivilTime :=
  let (year, month, day) := civilDate (n / 86400)
  let second := n % 86400
  ⟨year, month, day, second / 3600, second / 60 % 60, second % 60⟩

/-- The hour, the minute and the second. -/
def clockText (t : CivilTime) : String :=
  Text.zeroPadded 2 t.hour ++ ":" ++ Text.zeroPadded 2 t.minute ++ ":"
    ++ Text.zeroPadded 2 t.second

/-- The date, with the date and the time of day set apart by `gap`, and at least
`yearWidth` digits for the year. -/
def toText (yearWidth : Nat) (gap : String) (t : CivilTime) : String :=
  Text.zeroPadded yearWidth t.year ++ "-" ++ Text.zeroPadded 2 t.month ++ "-"
    ++ Text.zeroPadded 2 t.day ++ gap ++ t.clockText

end CivilTime

/-- Why a number of seconds has no date. -/
inductive DateError where
  /-- What is not a number has no date. -/
  | notANumber
  /-- The number is beyond 64 bits. -/
  | beyondClock
  /-- The year is beyond 32 bits. -/
  | beyondCalendar
  /-- The year is beyond the largest one that can be written. -/
  | longYear
  /-- The year does not lie between 1 and 9999. -/
  | year (n : Int)
  deriving DecidableEq, Repr

/-- The wording of the error. -/
def DateError.message : DateError → String
  | .notANumber => "Invalid value NaN (not a number)"
  | .beyondClock => "timestamp out of range for platform time_t"
  | .beyondCalendar => "[Errno 75] Value too large for defined data type"
  | .longYear => "signed integer is greater than maximum"
  | .year n => "year " ++ toString n ++ " is out of range"

/-- A time zone: by how many seconds its local time is ahead of universal time, at each
second. It may be up to 25 hours behind and up to 26 hours ahead. -/
structure Zone where
  offset : Int → Int
  lt_offset : ∀ n, -90000 < offset n
  offset_lt : ∀ n, offset n < 93600

namespace Zone

/-- The zone of universal time. -/
def universal : Zone := ⟨fun _ => 0, fun _ => by omega, fun _ => by omega⟩

/-- The seconds that a clock on a wall has counted. -/
def wall (zone : Zone) (n : Int) : Int := n + zone.offset n

/-- By how many seconds local time was put forward within the last day. -/
def gained (zone : Zone) (n : Int) : Int := zone.offset n - zone.offset (n - 86400)

end Zone

/-- The local date of a number of seconds that the clock can hold. -/
def civilTime? (zone : Zone) (n : Int) : Except DateError CivilTime :=
  if n < -9223372036854775808 ∨ 9223372036854775807 < n then .error .beyondClock
  else
    let t := CivilTime.ofSeconds (zone.wall n)
    if t.year < -2147481748 ∨ 2147485547 < t.year then .error .beyondCalendar
    else .ok t

/-- The local date of a number of seconds, if its year has 32 bits. -/
def writtenTime? (zone : Zone) (n : Int) : Except DateError CivilTime := do
  let t ← civilTime? zone n
  if 2147483647 < t.year then .error .longYear else .ok t

/-- The number that 32 bits hold in place of a year. -/
def heldYear (year : Int) : Int := year.bmod 4294967296

/-- The local date of a number of seconds, if its year has one to four digits. -/
def datedTime? (zone : Zone) (n : Int) : Except DateError CivilTime := do
  let t ← civilTime? zone n
  if t.year < 1 ∨ 9999 < t.year then .error (.year (heldYear t.year)) else .ok t

/-- The local date of a number of seconds. It is looked up whether the clocks show it for the
second time, at the date of the day before and, if they were put back since, at the date from
which on it is repeated; these dates have to exist as well. -/
def localTime? (zone : Zone) (n : Int) : Except DateError CivilTime := do
  let t ← datedTime? zone n
  let _ ← datedTime? zone (n - 86400)
  if zone.gained n < 0 then
    let _ ← datedTime? zone (n + zone.gained n)
  return t

/-- A date with microseconds. -/
structure Stamp where
  time : CivilTime
  microsecond : Int
  deriving DecidableEq, Repr

namespace Stamp

/-- A machine number of seconds, rounded to microseconds. -/
def microseconds? : Binary64 → Except DateError Int
  | .finite q => .ok (microsecondsOfSeconds q)
  | .negativeZero => .ok 0
  | .infinite _ => .error .beyondClock
  | .nan => .error .notANumber

/-- The date of a number of microseconds. -/
def ofMicroseconds? (n : Int) : Except DateError Stamp := do
  return ⟨← datedTime? .universal (n / 1000000), n % 1000000⟩

/-- The date of a machine number of seconds. -/
def ofSeconds? (x : Binary64) : Except DateError Stamp := do
  ofMicroseconds? (← microseconds? x)

/-- The date of a machine number of seconds in local time. -/
def localOfSeconds? (zone : Zone) (x : Binary64) : Except DateError Stamp := do
  let n ← microseconds? x
  return ⟨← localTime? zone (n / 1000000), n % 1000000⟩

/-- The date up to the second. -/
def toText (s : Stamp) : String := s.time.toText 4 "T"

/-- The date with microseconds, if there are any, and the offset of universal
time. -/
def universalText (s : Stamp) : String :=
  s.toText ++ (if s.microsecond = 0 then "" else "." ++ Text.zeroPadded 6 s.microsecond)
    ++ "+00:00"

end Stamp

end RateLimit
