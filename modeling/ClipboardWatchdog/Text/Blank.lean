/-!
# Blank and control characters

The two character classes that decide what a line of a log may show: `isBlank`, the white space
of the Unicode standard, and `isControl`, its control characters. `trim` removes blanks at both
ends of a text.
-/

namespace ClipboardWatchdog.Text

/-- White space in the sense of the Unicode property `White_Space`. -/
def isBlank (c : Char) : Bool :=
  let n := c.toNat
  (9 ≤ n && n ≤ 13) || n == 0x20 || n == 0x85 || n == 0xA0 || n == 0x1680 ||
    (0x2000 ≤ n && n ≤ 0x200A) || n == 0x2028 || n == 0x2029 || n == 0x202F ||
    n == 0x205F || n == 0x3000

/-- Control characters: the general category `Cc`, which holds the two blocks of 32 controls and
the delete character between them. -/
def isControl (c : Char) : Bool :=
  let n := c.toNat
  n < 0x20 || (0x7F ≤ n && n ≤ 0x9F)

/-- Every white space character of ASCII is blank. -/
theorem isBlank_of_isWhitespace {c : Char} (h : c.isWhitespace) : isBlank c := by
  simp only [Char.isWhitespace, Bool.or_eq_true, decide_eq_true_eq] at h
  rcases h with ((rfl | rfl) | rfl) | rfl <;> decide

/-- A text without the blanks at its start. -/
def trimStart (cs : List Char) : List Char := cs.dropWhile isBlank

def trimEnd (cs : List Char) : List Char := (cs.reverse.dropWhile isBlank).reverse

def trim (cs : List Char) : List Char := trimEnd (trimStart cs)

/-- A text that holds nothing but blanks, or nothing at all. -/
def isBlankText (s : String) : Bool := s.toList.all isBlank

/-- The text with every control character replaced by a space. -/
def flatten (cs : List Char) : List Char := cs.map fun c => if isControl c then ' ' else c

/-- A flattened text holds no control character. -/
theorem not_isControl_of_mem_flatten {c : Char} {cs : List Char} (h : c ∈ flatten cs) :
    isControl c = false := by
  obtain ⟨d, -, rfl⟩ := List.mem_map.1 h
  by_cases hd : isControl d
  · simp only [hd, if_true]
    decide
  · simp only [hd, Bool.false_eq_true, if_false]

end ClipboardWatchdog.Text
