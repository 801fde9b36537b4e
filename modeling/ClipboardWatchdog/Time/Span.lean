import ClipboardWatchdog.Text.Numeral

/-!
# Spans of time

A span is a length of time in whole seconds and nanoseconds. It is shown in two ways: as an
up-time `HH:MM:SS`, whose hours grow without bound, and in the largest unit that leaves a whole
part, with the fraction as short as it is exact.
-/

namespace ClipboardWatchdog

open Text

/-- A length of time: whole seconds and the nanoseconds beyond them. -/
structure Span where
  seconds : Nat
  nanos : Nat
  deriving DecidableEq, Repr, Inhabited

namespace Span

def zero : Span := ⟨0, 0⟩

/-- The span of so many milliseconds. -/
def ofMillis (n : Nat) : Span := ⟨n / 1000, n % 1000 * 1000000⟩

/-- The span of so many nanoseconds. -/
def ofNanos (n : Nat) : Span := ⟨n / 1000000000, n % 1000000000⟩

/-- The whole milliseconds in a span. -/
def millis (d : Span) : Nat := d.seconds * 1000 + d.nanos / 1000000

theorem millis_ofMillis (n : Nat) : (ofMillis n).millis = n := by
  simp only [millis, ofMillis]
  omega

/-- The span as `HH:MM:SS`, at least two digits each. -/
def upTime (d : Span) : String :=
  String.ofList (padded 2 (d.seconds / 3600) ++ ':' :: padded 2 (d.seconds % 3600 / 60) ++
    ':' :: padded 2 (d.seconds % 60))

/-- The digits of a fraction with `width` places, without the zeros at its end. -/
def fraction (width n : Nat) : List Char :=
  ((fixedDigits width n).reverse.dropWhile (· == '0')).reverse

/-- A whole part and a fraction of `width` places, with a point between them if the fraction is
not zero. -/
def withFraction (whole width part : Nat) : List Char :=
  match fraction width part with
  | [] => digits whole
  | ds => digits whole ++ '.' :: ds

/-- The span in seconds, milliseconds, microseconds or nanoseconds: the largest of these units
that the span reaches. -/
def shortText (d : Span) : String :=
  let n := d.nanos
  String.ofList <|
    if 0 < d.seconds then withFraction d.seconds 9 n ++ ['s']
    else if 1000000 ≤ n then withFraction (n / 1000000) 6 (n % 1000000) ++ ['m', 's']
    else if 1000 ≤ n then withFraction (n / 1000) 3 (n % 1000) ++ ['µ', 's']
    else digits n ++ ['n', 's']

end Span

end ClipboardWatchdog
