import ClipboardWatchdog.Proofs.Time.Calendar
import Mathlib.Tactic.IntervalCases

/-!
# The moment of a civil time

A date that exists is the date of its day (`Date.ofDays_toDays`), and a civil time that exists is
the one of its moment (`Civil.ofMoment_moment`), which is a moment of the calendar.
-/

namespace ClipboardWatchdog

namespace Date

/-! ### Years of an era -/

lemma daysBefore_mono {y y' : Nat} (h : y ≤ y') : daysBefore y ≤ daysBefore y' := by
  induction h with
  | refl => exact Nat.le_refl _
  | step _ ih =>
    rw [daysBefore_succ]
    exact Nat.le_add_right_of_le ih

/-- A day of an era lies in one year only. -/
lemma yearOfEra_eq {d year : Nat} (hyear : year < 400) (hstart : daysBefore year ≤ d)
    (hend : d < daysBefore (year + 1)) : yearOfEra d = year := by
  have hera : daysBefore (year + 1) ≤ daysBefore 400 := daysBefore_mono hyear
  have hdays : daysBefore 400 = 146097 := by decide
  obtain ⟨-, hstart', hend'⟩ := dayOfEra_mem_yearOfEra (d := d) (by omega)
  rcases Nat.lt_trichotomy (yearOfEra d) year with h | h | h
  · have hbefore : daysBefore (yearOfEra d + 1) ≤ daysBefore year := daysBefore_mono h
    omega
  · exact h
  · have hafter : daysBefore (year + 1) ≤ daysBefore (yearOfEra d) := daysBefore_mono h
    omega

lemma isLeapYear_congr {y y' : Int} (h : y % 400 = y' % 400) : isLeapYear y = isLeapYear y' := by
  have h4 : y % 4 = y' % 4 := by omega
  have h100 : y % 100 = y' % 100 := by omega
  simp only [isLeapYear, h4, h100, h]

/-! ### Dates counted from March -/

/-- The date is one of the calendar as it goes on without end. -/
structure IsReal (d : Date) : Prop where
  month_pos : 1 ≤ d.month
  month_le : d.month ≤ 12
  day_pos : 1 ≤ d.day
  day_le : d.day ≤ daysInMonth d.year d.month

/-- The year in which a date lies if years start in March. -/
def marchYear (d : Date) : Int := if d.month ≤ 2 then d.year - 1 else d.year

def monthFromMarch (d : Date) : Nat := if d.month ≤ 2 then d.month + 9 else d.month - 3

/-- The day of a date in the year that starts in March. -/
def dayFromMarch (d : Date) : Nat := (153 * d.monthFromMarch + 2) / 5 + d.day - 1

/-- The day of a date in its era. -/
def dayFromEra (d : Date) : Nat := daysBefore (d.marchYear % 400).toNat + d.dayFromMarch

namespace IsReal

variable {d : Date}

lemma toDays_eq (h : d.IsReal) :
    d.toDays = d.marchYear / 400 * 146097 + d.dayFromEra - 719468 := by
  obtain ⟨hmonth, -, hday, -⟩ := h
  unfold toDays dayFromEra marchYear dayFromMarch monthFromMarch daysBefore
  dsimp only
  by_cases hwinter : d.month ≤ 2
  · simp only [if_pos hwinter]
    omega
  · simp only [if_neg hwinter]
    omega

/-- The months from March on follow each other without a gap, and the year ends in February. -/
lemma monthFromMarch_eq (h : d.IsReal) :
    (5 * d.dayFromMarch + 2) / 153 = d.monthFromMarch ∧
      d.dayFromMarch < if isLeapYear (d.marchYear + 1) then 366 else 365 := by
  obtain ⟨hmonth, hmonth', hday, hday'⟩ := h
  obtain ⟨year, month, day⟩ := d
  unfold dayFromMarch monthFromMarch marchYear
  unfold daysInMonth at hday'
  dsimp only at hmonth hmonth' hday hday' ⊢
  interval_cases month <;> simp at hday' ⊢ <;> split_ifs at hday' ⊢ <;> omega

lemma dayFromEra_lt (h : d.IsReal) : d.dayFromEra < daysBefore ((d.marchYear % 400).toNat + 1) := by
  have hlength := h.monthFromMarch_eq.2
  have hleap : isLeapYear (((d.marchYear % 400).toNat + 1 : Nat) : Int) =
      isLeapYear (d.marchYear + 1) := isLeapYear_congr (by omega)
  unfold dayFromEra
  rw [daysBefore_succ, hleap]
  omega

end IsReal

/-- A date that exists is the date of its day. -/
theorem ofDays_toDays {d : Date} (h : d.IsReal) : ofDays d.toDays = d := by
  have hmonth := h.monthFromMarch_eq.1
  have hdays := h.toDays_eq
  have hend := h.dayFromEra_lt
  have hyear : (d.marchYear % 400).toNat < 400 := by omega
  have hera : daysBefore ((d.marchYear % 400).toNat + 1) ≤ daysBefore 400 := daysBefore_mono hyear
  have hwhole : daysBefore 400 = 146097 := by decide
  have hdayOfEra : ((d.toDays + 719468) % 146097).toNat = d.dayFromEra := by omega
  have heras : (d.toDays + 719468) / 146097 = d.marchYear / 400 := by omega
  have hyearOfEra : yearOfEra d.dayFromEra = (d.marchYear % 400).toNat :=
    yearOfEra_eq hyear (Nat.le_add_right _ _) hend
  have hdayOfYear : dayOfYear d.dayFromEra = d.dayFromMarch := by
    unfold dayOfYear
    rw [hyearOfEra]
    unfold dayFromEra daysBefore
    omega
  rw [ofDays_eq, hdayOfEra, heras, hyearOfEra, hdayOfYear, hmonth]
  obtain ⟨hmonth, hmonth', hday, -⟩ := h
  obtain ⟨year, month, day⟩ := d
  unfold dayFromMarch monthFromMarch marchYear
  dsimp only at hmonth hmonth' hday ⊢
  rw [Date.mk.injEq]
  by_cases hwinter : month ≤ 2
  · simp only [if_pos hwinter]
    split_ifs <;> omega
  · simp only [if_neg hwinter]
    split_ifs <;> omega

/-- The calendar starts with the last two months of a year that starts in March, and ends with the
first ten of another. -/
lemma IsReal.marchYear_mem {d : Date} (h : d.IsReal) (hfirst : Civil.firstYear ≤ d.year)
    (hlast : d.year ≤ Civil.lastYear) :
    (-262144 ≤ d.marchYear ∧ (d.marchYear = -262144 → 306 ≤ d.dayFromMarch)) ∧
      d.marchYear ≤ 262142 ∧ (d.marchYear = 262142 → d.dayFromMarch ≤ 305) := by
  obtain ⟨hmonth, hmonth', hday, hday'⟩ := h
  have hshort : d.day ≤ 31 := by
    unfold daysInMonth at hday'
    split_ifs at hday' <;> omega
  unfold Civil.firstYear at hfirst
  unfold Civil.lastYear at hlast
  unfold marchYear dayFromMarch monthFromMarch
  by_cases hwinter : d.month ≤ 2
  · simp only [if_pos hwinter]
    omega
  · simp only [if_neg hwinter]
    omega

/-- A date in a year of the calendar is on a day of the calendar. -/
lemma IsReal.toDays_mem {d : Date} (h : d.IsReal) (hfirst : Civil.firstYear ≤ d.year)
    (hlast : d.year ≤ Civil.lastYear) :
    (Date.mk Civil.firstYear 1 1).toDays ≤ d.toDays ∧
      d.toDays ≤ (Date.mk Civil.lastYear 12 31).toDays := by
  have hstart : (Date.mk Civil.firstYear 1 1).toDays = -96465292 := by decide
  have hstop : (Date.mk Civil.lastYear 12 31).toDays = 95026236 := by decide
  have hend := h.dayFromEra_lt
  obtain ⟨⟨hlow, hlow'⟩, hhigh, hhigh'⟩ := h.marchYear_mem hfirst hlast
  have hdays : daysBefore 400 = 146097 ∧ daysBefore 256 = 93502 ∧ daysBefore 257 = 93867 ∧
    daysBefore 142 = 51864 := by decide
  have hera : daysBefore ((d.marchYear % 400).toNat + 1) ≤ daysBefore 400 :=
    daysBefore_mono (by omega)
  rw [hstart, hstop, h.toDays_eq]
  unfold dayFromEra at hend ⊢
  constructor
  · -- the first year is the 256th of its era
    by_cases hfirst : d.marchYear = -262144
    · have hbefore : daysBefore 256 ≤ daysBefore (d.marchYear % 400).toNat :=
        daysBefore_mono (by omega)
      omega
    · by_cases heras : d.marchYear / 400 = -656
      · have hbefore : daysBefore 257 ≤ daysBefore (d.marchYear % 400).toNat :=
          daysBefore_mono (by omega)
        omega
      · omega
  · -- the last year is the 142nd of its era
    by_cases hlast : d.marchYear = 262142
    · have hbefore : daysBefore (d.marchYear % 400).toNat ≤ daysBefore 142 :=
        daysBefore_mono (by omega)
      omega
    · by_cases heras : d.marchYear / 400 = 655
      · have hbefore : daysBefore ((d.marchYear % 400).toNat + 1) ≤ daysBefore 142 :=
          daysBefore_mono (by omega)
        omega
      · omega

end Date

namespace Civil

/-- The moment of a civil time. -/
def moment (c : Civil) : Moment :=
  ⟨c.date.toDays * 86400 + (c.hour * 3600 + c.minute * 60 + c.second : Nat), c.nanosecond⟩

lemma isReal_date {c : Civil} (h : c.isValid = true) : c.date.IsReal := by
  simp only [isValid, Bool.and_eq_true, decide_eq_true_eq] at h
  obtain ⟨⟨⟨⟨⟨⟨⟨⟨⟨-, -⟩, hmonth⟩, hmonth'⟩, hday⟩, hday'⟩, -⟩, -⟩, -⟩, -⟩ := h
  exact ⟨hmonth, hmonth', hday, hday'⟩

/-- A civil time that exists is shown at its moment. -/
theorem ofMoment_moment {c : Civil} (h : c.isValid = true) : ofMoment c.moment = c := by
  have hdate := Date.ofDays_toDays (isReal_date h)
  simp only [isValid, Bool.and_eq_true, decide_eq_true_eq] at h
  have hdays : c.moment.seconds / 86400 = c.date.toDays := by
    unfold moment
    dsimp only
    omega
  have htime : c.moment.secondOfDay = c.hour * 3600 + c.minute * 60 + c.second := by
    unfold Moment.secondOfDay moment
    dsimp only
    omega
  unfold ofMoment
  rw [hdays, htime, hdate]
  obtain ⟨year, month, day, hour, minute, second, nanosecond⟩ := c
  dsimp only [date, moment] at h ⊢
  rw [Civil.mk.injEq]
  omega

/-- A civil time that exists is the one of a moment of the calendar. -/
lemma moment_mem {c : Civil} (h : c.isValid = true) :
    (Date.mk firstYear 1 1).toDays * 86400 ≤ c.moment.seconds ∧
      c.moment.seconds ≤ Moment.lastSecond ∧
      (c.moment.nanos < 1000000000 ∨ c.moment.seconds % 60 = 59 ∧ c.moment.nanos < 2000000000) := by
  have hdate := isReal_date h
  simp only [isValid, Bool.and_eq_true, Bool.or_eq_true, decide_eq_true_eq, beq_iff_eq] at h
  have hdays := hdate.toDays_mem (by simp only [date]; omega) (by simp only [date]; omega)
  unfold Moment.lastSecond moment
  dsimp only
  omega

end Civil

end ClipboardWatchdog
