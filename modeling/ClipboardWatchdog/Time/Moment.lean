import ClipboardWatchdog.Time.Span

/-!
# Moments of the clock

A moment counts seconds since 1970 in universal time. The nanoseconds of a moment run past one
thousand million inside a leap second, which belongs to the second before it. Moving a moment
forward leaves the leap second, and `elapsed` says how much time a clock shows between two
moments, nothing where it was set back.
-/

namespace ClipboardWatchdog

/-- A reading of the clock: seconds since the start of 1970 and nanoseconds, which reach past one
thousand million inside a leap second. -/
structure Moment where
  seconds : Int
  nanos : Nat
  deriving DecidableEq, Repr, Inhabited

namespace Moment

/-- The moment falls into a leap second. -/
def isLeap (m : Moment) : Bool := 1000000000 ≤ m.nanos

/-- The moment so many seconds later. Out of a leap second the count starts at the second before
it, so that the next moment is the first second after the leap. -/
def later (m : Moment) (n : Nat) : Moment :=
  if n = 0 then m
  else ⟨m.seconds + n, if m.isLeap then m.nanos - 1000000000 else m.nanos⟩

@[simp] theorem later_zero (m : Moment) : m.later 0 = m := rfl

theorem seconds_later (m : Moment) (n : Nat) : (m.later n).seconds = m.seconds + n := by
  by_cases h : n = 0 <;> simp [later, h]

/-- Seconds since midnight. -/
def secondOfDay (m : Moment) : Nat := (m.seconds % 86400).toNat

/-- The nanoseconds from `start` to `stop`, negative where the clock went back. A leap second
counts where the day clock has passed it. -/
def nanosBetween (start stop : Moment) : Int :=
  let passed : Int :=
    if start.secondOfDay < stop.secondOfDay ∧ start.isLeap then 1
    else if stop.secondOfDay < start.secondOfDay ∧ stop.isLeap then -1
    else 0
  (stop.seconds - start.seconds + passed) * 1000000000 + ((stop.nanos : Int) - start.nanos)

/-- The time from `start` to `stop`, none where the clock went back. -/
def elapsed (start stop : Moment) : Span := Span.ofNanos (nanosBetween start stop).toNat

end Moment

end ClipboardWatchdog
