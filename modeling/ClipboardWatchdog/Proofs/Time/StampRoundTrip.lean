import ClipboardWatchdog.Proofs.Time.StampSpelling

/-!
# File stamps are read back

The reader takes more than the writer makes; here it is shown to take all that the writer makes, and
to give back what was written, up to the fraction of a second.
-/

namespace ClipboardWatchdog.Civil

open Text

lemma ofDigits_pair {n : ℕ} (h : n < 100) : ofDigits (pair n) = n := by
  rw [pair, ofDigits_fixedDigits]
  exact Nat.mod_eq_of_lt h

/-- The fields as they are shown name the time that they were written from. -/
lemma ofShown_shownSecond {c : Civil} (h : c.isValid = true) :
    ofShown c.year c.month c.day c.hour c.minute c.shownSecond = some c.wholeSecond := by
  obtain ⟨year, month, day, hour, minute, second, nanosecond⟩ := c
  simp only [isValid, Bool.and_eq_true, Bool.or_eq_true, decide_eq_true_eq, beq_iff_eq] at h
  by_cases hleap : 1000000000 ≤ nanosecond
  · have hsecond : second = 59 := by omega
    simp only [ofShown, shownSecond, wholeSecond, if_pos hleap, hsecond, Nat.reduceAdd, if_true]
    rw [if_pos]
    simp only [isValid, Bool.and_eq_true, Bool.or_eq_true, decide_eq_true_eq, beq_iff_eq, true_and]
    omega
  · have hsecond : second ≠ 60 := by omega
    simp only [ofShown, shownSecond, wholeSecond, if_neg hleap, if_neg hsecond]
    rw [if_pos]
    simp only [isValid, Bool.and_eq_true, Bool.or_eq_true, decide_eq_true_eq, beq_iff_eq]
    omega

/-- A stamp names the time that it was written from, without the fraction of its second. -/
theorem readFileText_fileText {c : Civil} (h : c.isValid = true) :
    readFileText c.fileText = some c.wholeSecond := by
  have hbounds : c.month < 100 ∧ c.day < 100 ∧ c.hour < 100 ∧ c.minute < 100 ∧
      c.shownSecond < 100 := by
    simp only [isValid, Bool.and_eq_true, Bool.or_eq_true, decide_eq_true_eq, beq_iff_eq] at h
    have hday : daysInMonth c.year c.month ≤ 31 := by
      unfold daysInMonth
      split
      · split <;> decide
      · split <;> decide
    unfold shownSecond
    split <;> omega
  obtain ⟨hmonth, hday, hhour, hminute, hsecond⟩ := hbounds
  refine Stamp.readFileText_eq_some_iff.mpr
    ⟨.written c, Stamp.isSpelled_written c, Stamp.chars_written c, ?_⟩
  rw [Stamp.civil?, Stamp.value_year_written]
  simp only [Stamp.written, Stamp.pair, ofDigits_pair hmonth, ofDigits_pair hday,
    ofDigits_pair hhour, ofDigits_pair hminute, ofDigits_pair hsecond]
  exact ofShown_shownSecond h

end ClipboardWatchdog.Civil
