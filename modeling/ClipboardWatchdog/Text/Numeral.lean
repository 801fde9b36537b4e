/-!
# Numerals

Whole numbers as text: decimal digits, padded with zeros to a least width, and hexadecimal
digits. The digits of a number are defined here by recursion on the number, so that the readers
of this library can be proved to give it back.
-/

namespace ClipboardWatchdog.Text

/-- The decimal digit of a number below ten. -/
def digit (n : Nat) : Char := Char.ofNat (48 + n % 10)

/-- The decimal digits of a number, without leading zeros. -/
def digits (n : Nat) : List Char :=
  if n < 10 then [digit n] else digits (n / 10) ++ [digit n]
termination_by n
decreasing_by omega

/-- The last `width` decimal digits of a number, with zeros in front where it has fewer. -/
def fixedDigits : (width : Nat) → (n : Nat) → List Char
  | 0, _ => []
  | width + 1, n => fixedDigits width (n / 10) ++ [digit n]

/-- The decimal digits of a number, with zeros in front up to the least width. -/
def padded (width n : Nat) : List Char :=
  let ds := digits n
  List.replicate (width - ds.length) '0' ++ ds

/-- One hexadecimal digit; `high` is the letter that stands for ten. -/
def hexDigit (high : Char) (n : Nat) : Char :=
  if n % 16 < 10 then digit (n % 16) else Char.ofNat (high.toNat + n % 16 - 10)

/-- The last `width` hexadecimal digits of a number, in the letters that start with `high`. -/
def fixedHex (high : Char) : (width : Nat) → (n : Nat) → List Char
  | 0, _ => []
  | width + 1, n => fixedHex high width (n / 16) ++ [hexDigit high n]

/-- The hexadecimal digits of a number, with zeros in front up to the least width. -/
def paddedHex (high : Char) (width n : Nat) : List Char :=
  fixedHex high (max width (n.log2 / 4 + 1)) n

/-- The value of a decimal digit, none for any other character. -/
def digitValue? (c : Char) : Option Nat :=
  if 48 ≤ c.toNat ∧ c.toNat ≤ 57 then some (c.toNat - 48) else none

/-- The value of a hexadecimal digit of either case, none for any other character. -/
def hexValue? (c : Char) : Option Nat :=
  let n := c.toNat
  if 48 ≤ n ∧ n ≤ 57 then some (n - 48)
  else if 97 ≤ n ∧ n ≤ 102 then some (n - 87)
  else if 65 ≤ n ∧ n ≤ 70 then some (n - 55)
  else none

def isDigit (c : Char) : Bool := (digitValue? c).isSome

/-- The number that a row of decimal digits spells; other characters count as zero. -/
def ofDigits (cs : List Char) : Nat := cs.foldl (fun n c => 10 * n + (digitValue? c).getD 0) 0

/-- The decimal text of a whole number. -/
def decimal (n : Nat) : String := String.ofList (digits n)

end ClipboardWatchdog.Text
