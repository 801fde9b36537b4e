import ClipboardWatchdog.Time.Moment

/-!
# Civil time

Dates of the Gregorian calendar, extended without end in both directions, and times of day: what a
clock on the wall shows. `Civil.isValid` says which field values name a time that exists, and
`Civil.instant` orders civil times.

No time zones are modelled. Wherever this library shows a moment, the clock on the wall is assumed
to keep universal time (`Civil.ofMoment`). What is said of civil times themselves holds in any zone.
-/

namespace ClipboardWatchdog

def isLeapYear (year : Int) : Bool := year % 4 == 0 && (year % 100 != 0 || year % 400 == 0)

def daysInMonth (year : Int) (month : Nat) : Nat :=
  if month = 2 then (if isLeapYear year then 29 else 28)
  else if month = 4 ∨ month = 6 ∨ month = 9 ∨ month = 11 then 30
  else 31

/-- A date: year, month from 1, day of the month from 1. -/
structure Date where
  year : Int
  month : Nat
  day : Nat
  deriving DecidableEq, Repr, Inhabited

namespace Date

/-- Days from 1 January 1970 to the date. Years are counted from March, so that the leap day ends
a year, and in eras of four hundred years, which all have the same number of days. -/
def toDays (d : Date) : Int :=
  let year := if d.month ≤ 2 then d.year - 1 else d.year
  let yearOfEra := year % 400
  let monthFromMarch : Int := if d.month ≤ 2 then d.month + 9 else d.month - 3
  let dayOfYear := (153 * monthFromMarch + 2) / 5 + d.day - 1
  year / 400 * 146097 + (yearOfEra * 365 + yearOfEra / 4 - yearOfEra / 100 + dayOfYear) - 719468

/-- The date so many days after 1 January 1970. -/
def ofDays (n : Int) : Date :=
  let days := n + 719468
  let dayOfEra := (days % 146097).toNat
  let yearOfEra := (dayOfEra - dayOfEra / 1460 + dayOfEra / 36524 - dayOfEra / 146096) / 365
  let dayOfYear := dayOfEra - (365 * yearOfEra + yearOfEra / 4 - yearOfEra / 100)
  let monthFromMarch := (5 * dayOfYear + 2) / 153
  let month := if monthFromMarch < 10 then monthFromMarch + 3 else monthFromMarch - 9
  let year := days / 146097 * 400 + yearOfEra
  { year := if month ≤ 2 then year + 1 else year
    month := month
    day := dayOfYear - (153 * monthFromMarch + 2) / 5 + 1 }

end Date

/-- A date and a time of day. Inside a leap second the nanoseconds run past one thousand million
and the second stays at the one before it. -/
structure Civil where
  year : Int
  month : Nat
  day : Nat
  hour : Nat
  minute : Nat
  second : Nat
  nanosecond : Nat
  deriving DecidableEq, Repr, Inhabited

namespace Civil

def firstYear : Int := -262143

def lastYear : Int := 262142

/-- The civil time of a moment, on a clock that keeps universal time. That the clock on the wall is
such a clock is an assumption. -/
def ofMoment (m : Moment) : Civil :=
  let date := Date.ofDays (m.seconds / 86400)
  let time := m.secondOfDay
  { year := date.year, month := date.month, day := date.day
    hour := time / 3600, minute := time % 3600 / 60, second := time % 60
    nanosecond := m.nanos }

def date (c : Civil) : Date := ⟨c.year, c.month, c.day⟩

/-- The fields name a time that exists: a date of the calendar, a time of day, and a leap second
only after a fifty-ninth second. Leap seconds after other seconds, whose fields can be put together
as well, are left out. -/
def isValid (c : Civil) : Bool :=
  firstYear ≤ c.year && c.year ≤ lastYear && 1 ≤ c.month && c.month ≤ 12 && 1 ≤ c.day &&
    c.day ≤ daysInMonth c.year c.month && c.hour < 24 && c.minute < 60 && c.second < 60 &&
    (c.nanosecond < 1000000000 || (c.second == 59 && c.nanosecond < 2000000000))

/-- The second as a clock shows it: sixty inside a leap second. -/
def shownSecond (c : Civil) : Nat :=
  if 1000000000 ≤ c.nanosecond then c.second + 1 else c.second

/-- The civil time without the fraction of its second; a leap second stays one. -/
def wholeSecond (c : Civil) : Civil :=
  { c with nanosecond := if 1000000000 ≤ c.nanosecond then 1000000000 else 0 }

/-- The place of a civil time on the time line, where a second has room for a leap second. -/
def instant (c : Civil) : Int :=
  (c.date.toDays * 86400 + (c.hour * 3600 + c.minute * 60 + c.second : Nat)) * 2000000000 +
    c.nanosecond

end Civil

end ClipboardWatchdog
