import ClipboardWatchdog.Time.Civil

/-!
# Time stamps

The four ways in which a civil time is written: the time of day in front of a log line, the full
time in the header and trailer of a session, the stamp in the name of a session file, and the
internet form that data files carry. A year between 0 and 9999 has four digits; any other year
has a sign.
-/

namespace ClipboardWatchdog.Civil

open Text

/-- The year with four digits, or with a sign and at least four digits. -/
def yearText (c : Civil) : List Char :=
  if 0 ≤ c.year ∧ c.year ≤ 9999 then fixedDigits 4 c.year.toNat
  else (if c.year < 0 then '-' else '+') :: padded 4 c.year.natAbs

/-- A field of two digits. -/
def pair (n : Nat) : List Char := fixedDigits 2 n

/-- Year, month and day with dashes between them. -/
def dateText (c : Civil) : List Char :=
  c.yearText ++ '-' :: pair c.month ++ '-' :: pair c.day

/-- Hour, minute and second with the separator between them. -/
def timeText (separator : Char) (c : Civil) : List Char :=
  pair c.hour ++ separator :: pair c.minute ++ separator :: pair c.shownSecond

/-- The milliseconds after a point; what is finer is cut off. -/
def milliText (c : Civil) : List Char :=
  '.' :: fixedDigits 3 (c.nanosecond % 1000000000 / 1000000)

/-- The time of day, as `09:05:07`. -/
def clockText (c : Civil) : String := String.ofList (c.timeText ':')

/-- The time of day in front of a log line, as `09:05:07.042`. -/
def lineText (c : Civil) : List Char := c.timeText ':' ++ c.milliText

/-- Date and time in a session's header and trailer, as `2026-03-09 09:05:07.042`. -/
def fullText (c : Civil) : String :=
  String.ofList (c.dateText ++ ' ' :: c.timeText ':' ++ c.milliText)

/-- The stamp in the name of a session file, as `2026-03-09_09-05-07`. -/
def fileText (c : Civil) : List Char := c.dateText ++ '_' :: c.timeText '-'

/-- The fraction of a second after a point, with as many groups of three digits as it needs. -/
def fractionText (c : Civil) : List Char :=
  let n := c.nanosecond % 1000000000
  if n = 0 then []
  else if n % 1000000 = 0 then '.' :: fixedDigits 3 (n / 1000000)
  else if n % 1000 = 0 then '.' :: fixedDigits 6 (n / 1000)
  else '.' :: fixedDigits 9 n

/-- The internet form of a time, with the given mark for universal time. -/
def internetText (zone : String) (c : Civil) : String :=
  String.ofList (c.dateText ++ 'T' :: c.timeText ':' ++ c.fractionText) ++ zone

end ClipboardWatchdog.Civil
