import ClipboardWatchdog.Time.Civil

/-!
# The clock

A clock shows a moment, but it can be read only from the start of 1970 to the end of the calendar,
and never inside a leap second, which a clock has no way to show. Moving on from a moment, too,
goes no further than the end of the calendar. `Clock.read_eq_ok_iff` says when a reading succeeds:
it then gives what the clock shows.
-/

namespace ClipboardWatchdog

/-- Why there is no moment: the clock shows more nanoseconds than a second has, it is so long before
1970, it is past the end of the calendar, or a moment was to be moved past that end. -/
inductive ClockFault
  | malformed
  | tooEarly (lead : Span)
  | tooLate
  | movedTooFar
  deriving DecidableEq, Repr, Inhabited

def ClockFault.message : ClockFault → String
  | malformed =>
    "called `Result::unwrap()` on an `Err` value: " ++
      "Error \x7b kind: InvalidData, message: \"invalid timestamp\" \x7d"
  | tooEarly lead => "system time before Unix epoch: SystemTimeError(" ++ lead.shortText ++ ")"
  | tooLate => "called `Option::unwrap()` on a `None` value"
  | movedTooFar => "`DateTime + TimeDelta` overflowed"

namespace Moment

def epoch : Moment := ⟨0, 0⟩

def lastSecond : Int := (Date.mk Civil.lastYear 12 31).toDays * 86400 + 86399

theorem lastSecond_eq : lastSecond = 8210266876799 := by decide

/-- The moment lies past the end of the calendar. -/
def isBeyondCalendar (m : Moment) : Bool := lastSecond < m.seconds

theorem isBeyondCalendar_eq_false_iff {m : Moment} :
    m.isBeyondCalendar = false ↔ m.seconds ≤ lastSecond := by
  simp [isBeyondCalendar]

end Moment

/-- The clock of the system, which may show what cannot be read as a moment. It stands still: what
is done with one clock finds the same time at every reading, and time passes where another clock
takes its place. -/
structure Clock where
  shows : Moment
  deriving DecidableEq, Repr, Inhabited

namespace Clock

/-- Reads the clock. That the nanoseconds fit into a second comes before everything else. -/
def read (c : Clock) : Except ClockFault Moment :=
  if c.shows.isLeap then .error .malformed
  else if c.shows.seconds < 0 then .error (.tooEarly (c.shows.elapsed .epoch))
  else if c.shows.isBeyondCalendar then .error .tooLate
  else .ok c.shows

/-- A clock can be read from 1970 to the end of the calendar outside leap seconds, and the reading
is what it shows. -/
theorem read_eq_ok_iff {c : Clock} {m : Moment} :
    c.read = .ok m ↔
      m.isLeap = false ∧ 0 ≤ m.seconds ∧ m.seconds ≤ Moment.lastSecond ∧ c.shows = m := by
  unfold read
  split
  · grind
  · split
    · grind
    · split <;> grind [Moment.isBeyondCalendar]

end Clock

end ClipboardWatchdog
