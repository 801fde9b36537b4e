import ClipboardWatchdog.Time.Clock
import Mathlib.Tactic.Common

/-!
# The calendar

Days are counted in eras of four hundred years, and years from March. `dayOfEra_mem_yearOfEra` says
that the year which is computed for a day is the one in which the day lies; from it follow that
every day has a date that exists, and that the date leads back to the day.
-/

namespace ClipboardWatchdog

namespace Date

/-- The days of an era before one of its years. -/
def daysBefore (year : Nat) : Nat := 365 * year + year / 4 - year / 100 + year / 400

/-- The days of an era up to some day, without the leap days. -/
def plainDays (dayOfEra : Nat) : Nat :=
  dayOfEra - dayOfEra / 1460 + dayOfEra / 36524 - dayOfEra / 146096

/-- The year of an era in which a day of the era lies. -/
def yearOfEra (dayOfEra : Nat) : Nat := plainDays dayOfEra / 365

/-- The day of the year, counted from March. -/
def dayOfYear (dayOfEra : Nat) : Nat :=
  dayOfEra - (365 * yearOfEra dayOfEra + yearOfEra dayOfEra / 4 - yearOfEra dayOfEra / 100)

lemma plainDays_mono {d e : Nat} (h : d ≤ e) (he : e < 146097) : plainDays d ≤ plainDays e := by
  induction h with
  | refl => exact Nat.le_refl _
  | @step e _ ih =>
    have hstep : plainDays e ≤ plainDays (e + 1) := by
      unfold plainDays
      omega
    exact Nat.le_trans (ih (by omega)) hstep

/-- At the start of a year the count without leap days is a whole number of years, and on the day
before it is not yet. -/
lemma plainDays_daysBefore :
    ∀ year < 400, 365 * year ≤ plainDays (daysBefore year) ∧
      plainDays (daysBefore (year + 1) - 1) < 365 * (year + 1) := by
  decide +kernel

lemma daysBefore_lt {year : Nat} (h : year < 400) : daysBefore year < 146097 := by
  unfold daysBefore
  omega

/-- A day lies in the year that is computed for it. -/
lemma dayOfEra_mem_yearOfEra {d : Nat} (h : d < 146097) :
    yearOfEra d < 400 ∧ daysBefore (yearOfEra d) ≤ d ∧ d < daysBefore (yearOfEra d + 1) := by
  have hlast : plainDays d ≤ plainDays 146096 := plainDays_mono (by omega) (by decide)
  have hplain : plainDays 146096 = 145999 := by decide
  obtain ⟨y, hy⟩ : ∃ y, yearOfEra d = y := ⟨_, rfl⟩
  have hdiv : 365 * y ≤ plainDays d ∧ plainDays d < 365 * (y + 1) := by
    unfold yearOfEra at hy
    omega
  rw [hy]
  refine ⟨by omega, ?_, ?_⟩
  · by_contra hlt
    cases y with
    | zero => exact hlt (Nat.zero_le d)
    | succ y =>
      have hbound : daysBefore (y + 1) < 146097 := daysBefore_lt (by omega)
      have hbefore := (plainDays_daysBefore y (by omega)).2
      have hd : plainDays d ≤ plainDays (daysBefore (y + 1) - 1) :=
        plainDays_mono (by omega) (by omega)
      omega
  · by_contra hge
    have hnext : y + 1 < 400 ∨ y + 1 = 400 := by omega
    rcases hnext with hnext | hnext
    · have hstart := (plainDays_daysBefore (y + 1) hnext).1
      have hd : plainDays (daysBefore (y + 1)) ≤ plainDays d := plainDays_mono (by omega) h
      omega
    · rw [hnext] at hge
      exact hge h

end Date

/-! ### Dates that exist -/

namespace Date

lemma ofDays_eq (n : Int) :
    let dayOfEra := ((n + 719468) % 146097).toNat
    let monthFromMarch := (5 * dayOfYear dayOfEra + 2) / 153
    let month := if monthFromMarch < 10 then monthFromMarch + 3 else monthFromMarch - 9
    let year := (n + 719468) / 146097 * 400 + yearOfEra dayOfEra
    ofDays n =
      { year := if month ≤ 2 then year + 1 else year, month
        day := dayOfYear dayOfEra - (153 * monthFromMarch + 2) / 5 + 1 } := rfl

/-- A year that a leap day ends has one day more. -/
lemma daysBefore_succ (y : Nat) :
    daysBefore (y + 1) =
      daysBefore y + if isLeapYear ((y + 1 : Nat) : Int) = true then 366 else 365 := by
  have h4 : (y + 1) / 4 = y / 4 + if (y + 1) % 4 = 0 then 1 else 0 := by split <;> omega
  have h100 : (y + 1) / 100 = y / 100 + if (y + 1) % 100 = 0 then 1 else 0 := by split <;> omega
  have h400 : (y + 1) / 400 = y / 400 + if (y + 1) % 400 = 0 then 1 else 0 := by split <;> omega
  have hleap : isLeapYear ((y + 1 : Nat) : Int) = true ↔
      (y + 1) % 4 = 0 ∧ ((y + 1) % 100 ≠ 0 ∨ (y + 1) % 400 = 0) := by
    simp [isLeapYear]
    omega
  simp only [daysBefore, hleap, h4, h100, h400]
  split_ifs <;> omega

/-- A year has at most 366 days, and has so many only if a leap day ends it. -/
lemma dayOfYear_bounds {d : Nat} (h : d < 146097) :
    dayOfYear d + (365 * yearOfEra d + yearOfEra d / 4 - yearOfEra d / 100) = d ∧
      dayOfYear d ≤ 365 ∧
        (dayOfYear d = 365 → isLeapYear ((yearOfEra d + 1 : Nat) : Int) = true) := by
  obtain ⟨hyear, hstart, hend⟩ := dayOfEra_mem_yearOfEra h
  have hbefore : daysBefore (yearOfEra d) =
      365 * yearOfEra d + yearOfEra d / 4 - yearOfEra d / 100 := by
    unfold daysBefore
    omega
  rw [daysBefore_succ] at hend
  unfold dayOfYear
  rw [← hbefore]
  refine ⟨by omega, ?_, fun hk => ?_⟩
  · split at hend <;> omega
  · by_contra hleap
    rw [if_neg hleap] at hend
    omega

/-- A date leads back to the day that it was computed for. -/
theorem toDays_ofDays (n : Int) : (ofDays n).toDays = n := by
  have hd : ((n + 719468) % 146097).toNat < 146097 := by omega
  rw [ofDays_eq]
  obtain ⟨hsum, hyear, -⟩ := dayOfYear_bounds hd
  obtain ⟨hera, -, -⟩ := dayOfEra_mem_yearOfEra hd
  unfold toDays
  dsimp only
  generalize dayOfYear ((n + 719468) % 146097).toNat = k at *
  generalize yearOfEra ((n + 719468) % 146097).toNat = y at *
  generalize hE : (n + 719468) / 146097 = E at *
  have hmod : (E * 400 + y) % 400 = y := by omega
  have hdiv : (E * 400 + y) / 400 = E := by omega
  generalize hm : (5 * k + 2) / 153 = m at *
  by_cases hlt : m < 10
  · have hmonth : ¬m + 3 ≤ 2 := by omega
    simp only [if_pos hlt, if_neg hmonth, hmod, hdiv]
    omega
  · have hmonth : m - 9 ≤ 2 := by omega
    simp only [if_neg hlt, if_pos hmonth, Int.add_sub_cancel, hmod, hdiv]
    omega

/-- The day for which a date was computed is in the month. -/
lemma day_ofDays (n : Int) :
    let date := ofDays n
    1 ≤ date.month ∧ date.month ≤ 12 ∧ 1 ≤ date.day ∧
      date.day ≤ daysInMonth date.year date.month := by
  have hd : ((n + 719468) % 146097).toNat < 146097 := by omega
  rw [ofDays_eq]
  obtain ⟨-, hyear, hleap⟩ := dayOfYear_bounds hd
  generalize dayOfYear ((n + 719468) % 146097).toNat = k at *
  generalize yearOfEra ((n + 719468) % 146097).toNat = y at *
  generalize (n + 719468) / 146097 = E at *
  generalize hm : (5 * k + 2) / 153 = m at *
  dsimp only
  unfold daysInMonth
  by_cases hlt : m < 10
  · have hmonth : ¬m + 3 ≤ 2 := by omega
    have hfeb : m + 3 ≠ 2 := by omega
    simp only [if_pos hlt, if_neg hmonth, if_neg hfeb]
    split <;> omega
  · have hmonth : m - 9 ≤ 2 := by omega
    simp only [if_neg hlt, if_pos hmonth]
    by_cases hfeb : m - 9 = 2
    · -- the day is the 29th only if it is the last of its year
      have hera : isLeapYear (E * 400 + y + 1) = isLeapYear ((y + 1 : Nat) : Int) := by
        have h4 : (E * 400 + y + 1) % 4 = ((y + 1 : Nat) : Int) % 4 := by omega
        have h100 : (E * 400 + y + 1) % 100 = ((y + 1 : Nat) : Int) % 100 := by omega
        have h400 : (E * 400 + y + 1) % 400 = ((y + 1 : Nat) : Int) % 400 := by omega
        simp only [isLeapYear, h4, h100, h400]
      rw [if_pos hfeb, hera]
      by_cases hly : isLeapYear ((y + 1 : Nat) : Int) = true
      · rw [if_pos hly]
        omega
      · have hk : k ≠ 365 := fun hk => hly (hleap hk)
        rw [if_neg hly]
        omega
    · rw [if_neg hfeb]
      split <;> omega

/-- A day of the calendar has a year of the calendar. -/
lemma year_ofDays {n : Int} (hfirst : (Date.mk Civil.firstYear 1 1).toDays ≤ n)
    (hlast : n ≤ (Date.mk Civil.lastYear 12 31).toDays) :
    Civil.firstYear ≤ (ofDays n).year ∧ (ofDays n).year ≤ Civil.lastYear := by
  have hd : ((n + 719468) % 146097).toNat < 146097 := by omega
  have hstart : (Date.mk Civil.firstYear 1 1).toDays = -96465292 := by decide
  have hend : (Date.mk Civil.lastYear 12 31).toDays = 95026236 := by decide
  rw [hstart] at hfirst
  rw [hend] at hlast
  rw [ofDays_eq]
  obtain ⟨hsum, hyear, -⟩ := dayOfYear_bounds hd
  obtain ⟨hera, -, -⟩ := dayOfEra_mem_yearOfEra hd
  unfold Civil.firstYear Civil.lastYear
  dsimp only
  generalize dayOfYear ((n + 719468) % 146097).toNat = k at *
  generalize yearOfEra ((n + 719468) % 146097).toNat = y at *
  have heras : -656 ≤ (n + 719468) / 146097 ∧ (n + 719468) / 146097 ≤ 655 := by omega
  generalize hm : (5 * k + 2) / 153 = m at *
  by_cases hlt : m < 10
  · have hmonth : ¬m + 3 ≤ 2 := by omega
    simp only [if_pos hlt, if_neg hmonth]
    refine ⟨?_, by omega⟩
    -- the calendar starts in the year 256 of an era, in January
    have hlow : y ≤ 255 ∨ y = 256 ∨ 257 ≤ y := by omega
    omega
  · have hmonth : m - 9 ≤ 2 := by omega
    simp only [if_neg hlt, if_pos hmonth]
    refine ⟨by omega, ?_⟩
    -- the calendar ends in the year 142 of an era, in December
    have hhigh : y ≤ 141 ∨ y = 142 ∨ 143 ≤ y := by omega
    omega

end Date

/-! ### Civil times of moments -/

namespace Civil

/-- A moment of the calendar has a civil time that exists, if a leap second is where one may be. -/
theorem isValid_ofMoment {m : Moment}
    (hfirst : (Date.mk firstYear 1 1).toDays * 86400 ≤ m.seconds)
    (hlast : m.seconds ≤ Moment.lastSecond)
    (hnanos : m.nanos < 1000000000 ∨ m.seconds % 60 = 59 ∧ m.nanos < 2000000000) :
    (ofMoment m).isValid = true := by
  unfold Moment.lastSecond at hlast
  obtain ⟨hmonth, hmonth', hday, hday'⟩ := Date.day_ofDays (m.seconds / 86400)
  obtain ⟨hyear, hyear'⟩ := Date.year_ofDays (n := m.seconds / 86400) (by omega) (by omega)
  have htime : m.secondOfDay < 86400 := by
    unfold Moment.secondOfDay
    omega
  have hsecond : m.seconds % 60 = 59 → m.secondOfDay % 60 = 59 := by
    unfold Moment.secondOfDay
    omega
  simp only [isValid, Bool.and_eq_true, Bool.or_eq_true, decide_eq_true_eq, beq_iff_eq]
  dsimp only [ofMoment]
  omega

/-- The whole seconds of moments outside leap seconds lie on the time line as they follow each
other. -/
lemma instant_wholeSecond_ofMoment {m : Moment} (h : m.isLeap = false) :
    (ofMoment m).wholeSecond.instant = m.seconds * 2000000000 := by
  have hnanos : ¬1000000000 ≤ m.nanos := by simpa [Moment.isLeap] using h
  have hdays : (ofMoment m).wholeSecond.date.toDays = m.seconds / 86400 := Date.toDays_ofDays _
  unfold instant
  rw [hdays]
  have hwhole : (ofMoment m).wholeSecond.nanosecond = 0 := if_neg hnanos
  rw [hwhole]
  dsimp only [wholeSecond, ofMoment, Moment.secondOfDay]
  omega

end Civil

end ClipboardWatchdog
