import ClipboardWatchdog.Text.Blank
import ClipboardWatchdog.Text.Numeral
import Mathlib.Algebra.Group.Nat.Defs
import Mathlib.Data.List.Induction
import Mathlib.Tactic.Common

/-!
# Digits

What is written in digits is read back: `ofDigits` gives the number from all of its digits, and the
number below a power of ten from as many digits as the power.
-/

namespace ClipboardWatchdog.Text

/-! ### One digit -/

lemma toNat_digit (n : ℕ) : (digit n).toNat = 48 + n % 10 := by
  have hall : ∀ k < 10, (Char.ofNat (48 + k)).toNat = 48 + k := by decide
  exact hall (n % 10) (Nat.mod_lt n (by decide))

@[simp] lemma digitValue?_digit (n : ℕ) : digitValue? (digit n) = some (n % 10) := by
  have hlt : n % 10 < 10 := Nat.mod_lt n (by decide)
  unfold digitValue?
  rw [toNat_digit, if_pos (by omega)]
  simp

@[simp] lemma isDigit_digit (n : ℕ) : isDigit (digit n) = true := by simp [isDigit]

/-- A digit is neither a sign, a separator nor a blank. -/
lemma toNat_of_isDigit {c : Char} (h : isDigit c = true) : 48 ≤ c.toNat ∧ c.toNat ≤ 57 := by
  unfold isDigit digitValue? at h
  split at h
  · assumption
  · simp at h

lemma not_isBlank_of_isDigit {c : Char} (h : isDigit c = true) : isBlank c = false := by
  have hc := toNat_of_isDigit h
  unfold isBlank
  simp
  omega

/-! ### Rows of digits -/

lemma ofDigits_concat (ds : List Char) (c : Char) :
    ofDigits (ds ++ [c]) = 10 * ofDigits ds + (digitValue? c).getD 0 := by
  simp [ofDigits]

@[simp] lemma length_fixedDigits (width n : ℕ) : (fixedDigits width n).length = width := by
  induction width generalizing n with
  | zero => rfl
  | succ width ih => simp [fixedDigits, ih]

lemma isDigit_of_mem_fixedDigits {width n : ℕ} {c : Char} (h : c ∈ fixedDigits width n) :
    isDigit c = true := by
  induction width generalizing n with
  | zero => simp [fixedDigits] at h
  | succ width ih =>
    rcases List.mem_append.mp h with h | h
    · exact ih h
    · rw [List.mem_singleton.mp h]
      exact isDigit_digit n

lemma ofDigits_fixedDigits (width n : ℕ) : ofDigits (fixedDigits width n) = n % 10 ^ width := by
  induction width generalizing n with
  | zero => simp [fixedDigits, ofDigits, Nat.mod_one]
  | succ width ih =>
    rw [fixedDigits, ofDigits_concat, ih, digitValue?_digit, Option.getD_some, Nat.pow_succ',
      Nat.mod_mul]
    omega

lemma isDigit_of_mem_digits {n : ℕ} {c : Char} (h : c ∈ digits n) : isDigit c = true := by
  induction n using digits.induct with
  | case1 n hn =>
    rw [digits, if_pos hn] at h
    rw [List.mem_singleton.mp h]
    exact isDigit_digit n
  | case2 n hn ih =>
    rw [digits, if_neg hn] at h
    rcases List.mem_append.mp h with h | h
    · exact ih h
    · rw [List.mem_singleton.mp h]
      exact isDigit_digit n

lemma ofDigits_digits (n : ℕ) : ofDigits (digits n) = n := by
  induction n using digits.induct with
  | case1 n hn =>
    rw [digits, if_pos hn]
    simpa [ofDigits] using hn
  | case2 n hn ih =>
    rw [digits, if_neg hn, ofDigits_concat, ih, digitValue?_digit, Option.getD_some]
    omega

lemma digits_ne_nil (n : ℕ) : digits n ≠ [] := by
  rw [digits]
  split <;> simp

lemma padded_ne_nil (width n : ℕ) : padded width n ≠ [] := by
  simp [padded, digits_ne_nil]

lemma isDigit_of_mem_padded {width n : ℕ} {c : Char} (h : c ∈ padded width n) :
    isDigit c = true := by
  rcases List.mem_append.mp h with h | h
  · rw [List.eq_of_mem_replicate h]
    rfl
  · exact isDigit_of_mem_digits h

/-- Zeros in front of a row of digits do not change the number. -/
lemma ofDigits_replicate_append (k : ℕ) (ds : List Char) :
    ofDigits (List.replicate k '0' ++ ds) = ofDigits ds := by
  induction k with
  | zero => rfl
  | succ k ih =>
    rw [List.replicate_succ, List.cons_append, ← ih]
    rfl

@[simp] lemma ofDigits_padded (width n : ℕ) : ofDigits (padded width n) = n := by
  rw [padded, ofDigits_replicate_append, ofDigits_digits]

/-! ### The digits of a number -/

lemma digit_ne_zero {n : ℕ} (h : n % 10 ≠ 0) : digit n ≠ '0' := by
  intro hzero
  have hnat := congrArg Char.toNat hzero
  rw [toNat_digit, show '0'.toNat = 48 from rfl] at hnat
  omega

/-- A number has no zero in front of its digits. -/
lemma exists_digits_eq_cons {n : ℕ} (h : n ≠ 0) : ∃ c cs, digits n = c :: cs ∧ c ≠ '0' := by
  induction n using digits.induct with
  | case1 n hn =>
    rw [digits, if_pos hn]
    exact ⟨digit n, [], rfl, digit_ne_zero (by omega)⟩
  | case2 n hn ih =>
    obtain ⟨c, cs, heq, hc⟩ := ih (by omega)
    rw [digits, if_neg hn, heq]
    exact ⟨c, cs ++ [digit n], rfl, hc⟩

/-- A digit is the one of its value. -/
lemma digit_of_digitValue {c : Char} {n : ℕ} (h : digitValue? c = some n) :
    digit n = c ∧ n < 10 := by
  unfold digitValue? at h
  split at h
  · obtain rfl := Option.some.inj h
    have hlt : c.toNat - 48 < 10 := by omega
    refine ⟨?_, hlt⟩
    rw [digit, Nat.mod_eq_of_lt hlt, show 48 + (c.toNat - 48) = c.toNat by omega, Char.ofNat_toNat]
  · cases h

/-- Digits without a zero in front are those of the number that they spell. -/
lemma digits_ofDigits {c : Char} {cs : List Char} (hc : c ≠ '0')
    (hrow : ∀ d ∈ c :: cs, isDigit d = true) : digits (ofDigits (c :: cs)) = c :: cs := by
  induction cs using List.reverseRecOn with
  | nil =>
    obtain ⟨n, hn⟩ := Option.isSome_iff_exists.mp (hrow c List.mem_cons_self)
    obtain ⟨hdigit, hlt⟩ := digit_of_digitValue hn
    rw [digits, if_pos (by simpa [ofDigits, hn] using hlt)]
    simp [ofDigits, hn, hdigit]
  | append_singleton cs d ih =>
    have ih := ih fun e he => hrow e (by
      rcases List.mem_cons.mp he with rfl | he
      · exact List.mem_cons_self
      · exact List.mem_cons_of_mem _ (List.mem_append_left _ he))
    obtain ⟨n, hn⟩ := Option.isSome_iff_exists.mp (hrow d (by simp))
    obtain ⟨hdigit, hlt⟩ := digit_of_digitValue hn
    have hpos : ofDigits (c :: cs) ≠ 0 := by
      intro hzero
      rw [hzero, digits, if_pos (by decide)] at ih
      exact hc (List.cons.inj ih).1.symm
    rw [← List.cons_append, ofDigits_concat, hn, Option.getD_some, digits, if_neg (by omega),
      show (10 * ofDigits (c :: cs) + n) / 10 = ofDigits (c :: cs) by omega, ih]
    rw [digit, show (10 * ofDigits (c :: cs) + n) % 10 = n % 10 by omega, ← digit, hdigit]

/-- As many digits as a row has are those that it spells. -/
lemma fixedDigits_ofDigits {row : List Char} (hrow : ∀ c ∈ row, isDigit c = true) :
    fixedDigits row.length (ofDigits row) = row := by
  induction row using List.reverseRecOn with
  | nil => rfl
  | append_singleton row c ih =>
    obtain ⟨n, hn⟩ := Option.isSome_iff_exists.mp (hrow c (by simp))
    obtain ⟨hdigit, hlt⟩ := digit_of_digitValue hn
    have hfront : (10 * ofDigits row + n) / 10 = ofDigits row := by omega
    have hlast : (10 * ofDigits row + n) % 10 = n % 10 := by omega
    rw [List.length_append, List.length_singleton, fixedDigits, ofDigits_concat, hn,
      Option.getD_some, hfront, ih fun d hd => hrow d (List.mem_append_left _ hd), digit, hlast,
      ← digit, hdigit]

lemma ofDigits_lt {row : List Char} (hrow : ∀ c ∈ row, isDigit c = true) :
    ofDigits row < 10 ^ row.length := by
  have hvalue := ofDigits_fixedDigits row.length (ofDigits row)
  rw [fixedDigits_ofDigits hrow] at hvalue
  rw [hvalue]
  exact Nat.mod_lt _ (Nat.pow_pos (by decide))

/-- A number that has no more digits than the least width is padded to this width. -/
lemma padded_of_lt {width n : ℕ} (hwidth : 0 < width) (h : n < 10 ^ width) :
    padded width n = fixedDigits width n := by
  induction width generalizing n with
  | zero => cases hwidth
  | succ width ih =>
    rcases Nat.eq_zero_or_pos width with rfl | hwidth
    · have hn : n < 10 := by simpa using h
      simp [padded, digits, fixedDigits, hn]
    rw [Nat.pow_succ] at h
    have hfront := ih hwidth (n := n / 10) (by omega)
    rw [fixedDigits, ← hfront]
    by_cases hn : n < 10
    · have hzero : n / 10 = 0 := by omega
      have hzeros : List.replicate width '0' = List.replicate (width - 1) '0' ++ ['0'] := by
        rw [← List.replicate_succ', Nat.sub_add_cancel hwidth]
      simp [padded, digits, hn, hzero, hzeros, digit]
    · rw [padded, digits, if_neg hn]
      simp [padded, Nat.add_sub_add_right]

lemma length_padded (width n : ℕ) : width ≤ (padded width n).length := by
  rw [padded, List.length_append, List.length_replicate]
  omega

/-- A number that has more digits than the least width is not padded. -/
lemma head?_padded {width n : ℕ} (hwidth : 0 < width) (h : width < (padded width n).length) :
    (padded width n).head? ≠ some '0' := by
  rw [padded, List.length_append, List.length_replicate] at h
  have hnone : width - (digits n).length = 0 := by omega
  have hn : n ≠ 0 := by
    rintro rfl
    simp [digits] at h
    omega
  obtain ⟨c, cs, heq, hc⟩ := exists_digits_eq_cons hn
  rw [padded, hnone, heq]
  simpa using hc

/-- A row that is longer than the least width only where no zero stands in front is the number that
it spells, padded to this width. -/
lemma padded_ofDigits {width : ℕ} {row : List Char} (hwidth : 0 < width)
    (hrow : ∀ c ∈ row, isDigit c = true) (hlength : width ≤ row.length)
    (hzero : width < row.length → row.head? ≠ some '0') : padded width (ofDigits row) = row := by
  rcases Nat.lt_or_eq_of_le hlength with hlt | rfl
  · cases row with
    | nil => simp at hlt
    | cons c row =>
      have hc : c ≠ '0' := fun h => hzero hlt (h ▸ rfl)
      have hnone : width - (c :: row).length = 0 := by omega
      rw [padded, digits_ofDigits hc hrow, hnone]
      rfl
  · rw [padded_of_lt hwidth (ofDigits_lt hrow), fixedDigits_ofDigits hrow]

/-- Where a number in digits ends is told by what follows. -/
lemma digits_append_inj {m n : ℕ} {as bs : List Char} (has : ∀ c ∈ as.head?, isDigit c = false)
    (hbs : ∀ c ∈ bs.head?, isDigit c = false) (h : digits m ++ as = digits n ++ bs) :
    m = n ∧ as = bs := by
  have hdigits {k : ℕ} {cs : List Char} (hcs : ∀ c ∈ cs.head?, isDigit c = false) :
      (digits k ++ cs).takeWhile isDigit = digits k := by
    rw [List.takeWhile_append_of_pos fun _ => isDigit_of_mem_digits]
    cases cs with
    | nil => simp
    | cons c cs => rw [List.takeWhile_cons_of_neg (by simp [hcs c rfl]), List.append_nil]
  have hrow : digits m = digits n := by rw [← hdigits has, h, hdigits hbs]
  refine ⟨?_, List.append_cancel_left (hrow ▸ h)⟩
  rw [← ofDigits_digits m, hrow, ofDigits_digits]

end ClipboardWatchdog.Text
