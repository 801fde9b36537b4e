import ClipboardWatchdog.Text.Blank
import ClipboardWatchdog.Time.Stamp

/-!
# Reading the stamp of a file name

The reader takes more than the writer makes. Blanks may stand before every number, a number may
have fewer digits than the writer gives it, and a year may have a sign, after which it may have
any number of digits. The separators are exact and nothing may follow the seconds.
-/

namespace ClipboardWatchdog.Civil

open Text

/-- Reads a row of one to `most` digits, or of any length, and gives what follows. -/
def readDigits (most : Option Nat) (cs : List Char) : Option (Nat × List Char) :=
  let run := cs.takeWhile isDigit
  let taken := match most with
    | some n => run.take n
    | none => run
  if taken.isEmpty then none else some (ofDigits taken, cs.drop taken.length)

/-- Reads a number of at most two digits after any blanks. -/
def readPair (cs : List Char) : Option (Nat × List Char) := readDigits (some 2) (trimStart cs)

/-- Reads a year after any blanks: up to four digits, or a sign and any number of digits. -/
def readYear (cs : List Char) : Option (Int × List Char) :=
  match trimStart cs with
  | '-' :: rest => (readDigits none rest).map fun (n, r) => (-(n : Int), r)
  | '+' :: rest => (readDigits none rest).map fun (n, r) => ((n : Int), r)
  | rest => (readDigits (some 4) rest).map fun (n, r) => ((n : Int), r)

/-- Passes one separator. -/
def expect (c : Char) : List Char → Option (List Char)
  | [] => none
  | d :: rest => if d = c then some rest else none

/-- A civil time from its fields as they are shown; the sixtieth second is a leap second. -/
def ofShown (year : Int) (month day hour minute shown : Nat) : Option Civil :=
  let c : Civil :=
    if shown = 60 then ⟨year, month, day, hour, minute, 59, 1000000000⟩
    else ⟨year, month, day, hour, minute, shown, 0⟩
  if c.isValid then some c else none

/-- The civil time that a file stamp names, if it names one. -/
def readFileText (cs : List Char) : Option Civil := do
  let (year, cs) ← readYear cs
  let (month, cs) ← readPair (← expect '-' cs)
  let (day, cs) ← readPair (← expect '-' cs)
  let (hour, cs) ← readPair (← expect '_' cs)
  let (minute, cs) ← readPair (← expect '-' cs)
  let (second, cs) ← readPair (← expect '-' cs)
  if cs.isEmpty then ofShown year month day hour minute second else none

end ClipboardWatchdog.Civil
