import ClipboardWatchdog.Proofs.Session.Names

/-!
# The second that a name tells

The name of a session file tells the second in which the session was started, and nothing finer. It
is read back without the fraction, whatever the base is made of, and two starts have the same name
exactly if they lie in the same second (`Session.fileName_tells_second`). The
seconds are those of the clock on the wall; where that clock is equally far ahead of universal time
at both starts, they are the seconds of universal time as well. A leap second is a second of its
own, shown as the sixtieth.
-/

namespace ClipboardWatchdog

namespace Moment

/-- The moment lies in the calendar, and inside a leap second only at the end of a minute. Leap
seconds after other seconds, which can be put together as well, are left out. -/
structure IsRepresentable (m : Moment) : Prop where
  first : (Date.mk Civil.firstYear 1 1).toDays * 86400 ≤ m.seconds
  last : m.seconds ≤ lastSecond
  nanos : m.nanos < 1000000000 ∨ m.seconds % 60 = 59 ∧ m.nanos < 2000000000

/-- The moment without the fraction of its second; a leap second stays one. -/
def wholeSecond (m : Moment) : Moment := ⟨m.seconds, if m.isLeap then 1000000000 else 0⟩

/-- What a clock shows at the moment that is so many seconds ahead of universal time. -/
def ahead (seconds : Int) (m : Moment) : Moment := { m with seconds := m.seconds + seconds }

variable {m m' : Moment}

lemma IsRepresentable.isValid (h : m.IsRepresentable) : (Civil.ofMoment m).isValid = true :=
  Civil.isValid_ofMoment h.first h.last h.nanos

/-- Clocks that are equally far ahead show the same second in the same second. -/
lemma wholeSecond_ahead_eq_iff (seconds : ℤ) :
    (m.ahead seconds).wholeSecond = (m'.ahead seconds).wholeSecond ↔
      m.wholeSecond = m'.wholeSecond := by
  simp only [wholeSecond, ahead, mk.injEq, Int.add_left_inj]
  rfl

end Moment

namespace Civil

lemma wholeSecond_ofMoment (m : Moment) : (ofMoment m).wholeSecond = ofMoment m.wholeSecond := by
  by_cases h : 1000000000 ≤ m.nanos <;>
    simp [wholeSecond, Moment.wholeSecond, Moment.isLeap, ofMoment, Moment.secondOfDay, h]

/-- A civil time is the one of a single moment. -/
lemma ofMoment_injective : Function.Injective ofMoment := by
  intro m m' h
  have hdays : m.seconds / 86400 = m'.seconds / 86400 := by
    have hdate := congrArg (fun c => c.date.toDays) h
    change (Date.ofDays _).toDays = (Date.ofDays _).toDays at hdate
    rwa [Date.toDays_ofDays, Date.toDays_ofDays] at hdate
  have htime : m.secondOfDay = m'.secondOfDay := by
    have hhour : m.secondOfDay / 3600 = m'.secondOfDay / 3600 := congrArg hour h
    have hminute : m.secondOfDay % 3600 / 60 = m'.secondOfDay % 3600 / 60 := congrArg minute h
    have hsecond : m.secondOfDay % 60 = m'.secondOfDay % 60 := congrArg second h
    omega
  have hnanos : m.nanos = m'.nanos := congrArg nanosecond h
  obtain ⟨seconds, nanos⟩ := m
  obtain ⟨seconds', nanos'⟩ := m'
  unfold Moment.secondOfDay at htime
  dsimp only at hdays htime
  rw [Moment.mk.injEq]
  exact ⟨by omega, hnanos⟩

/-- A leap second belongs to the last second of a minute. -/
lemma second_eq_of_isValid {c : Civil} (h : c.isValid = true) (hleap : 1000000000 ≤ c.nanosecond) :
    c.second = 59 := by
  simp only [isValid, Bool.and_eq_true, Bool.or_eq_true, decide_eq_true_eq, beq_iff_eq] at h
  omega

/-- The stamp does not show the fraction of a second. -/
lemma fileText_wholeSecond (c : Civil) : c.wholeSecond.fileText = c.fileText := by
  have hshown : c.wholeSecond.shownSecond = c.shownSecond := by
    by_cases h : 1000000000 ≤ c.nanosecond <;> simp [shownSecond, wholeSecond, h]
  unfold fileText timeText
  rw [hshown]
  rfl

end Civil

namespace Session

/-- Times have the same name exactly if the same second is shown at both. -/
lemma nameAt_eq_iff {base : String} {start start' : Civil} (h : start.isValid = true)
    (h' : start'.isValid = true) :
    nameAt base start = nameAt base start' ↔ start.wholeSecond = start'.wholeSecond := by
  constructor
  · intro hname
    have hread := startOf?_nameAt base h
    rw [hname, startOf?_nameAt base h'] at hread
    exact (Option.some.inj hread).symm
  · intro hsecond
    have hstamp : start.fileText = start'.fileText := by
      rw [← Civil.fileText_wholeSecond, hsecond, Civil.fileText_wholeSecond]
    rw [nameAt, nameAt, nameChars, nameChars, hstamp]

/-- The start is read back from the name without the fraction of its second, a leap second as the
fifty-ninth with all its nanoseconds before it. So two starts share a name exactly if the clock on
the wall shows the same second at both. That is to say that they lie in the same second, if the
clock is as far ahead of universal time at the one as at the other. -/
theorem fileName_tells_second (base : String) {start start' : Civil} (h : start.isValid = true)
    (h' : start'.isValid = true) :
    startOf? base (nameAt base start) = some start.wholeSecond ∧
    (1000000000 ≤ start.nanosecond →
      start.wholeSecond.second = 59 ∧ start.wholeSecond.nanosecond = 1000000000) ∧
    (nameAt base start = nameAt base start' ↔ start.wholeSecond = start'.wholeSecond) ∧
    ∀ (seconds : ℤ) (m m' : Moment),
      Civil.ofMoment (m.ahead seconds) = start → Civil.ofMoment (m'.ahead seconds) = start' →
        (nameAt base start = nameAt base start' ↔ m.wholeSecond = m'.wholeSecond) := by
  have hname : nameAt base start = nameAt base start' ↔ start.wholeSecond = start'.wholeSecond :=
    nameAt_eq_iff h h'
  have hsecond (hleap : 1000000000 ≤ start.nanosecond) : start.second = 59 :=
    Civil.second_eq_of_isValid h hleap
  refine ⟨startOf?_nameAt base h, fun hleap => ⟨hsecond hleap, if_pos hleap⟩, hname, ?_⟩
  rintro seconds m m' rfl rfl
  rw [hname, Civil.wholeSecond_ofMoment, Civil.wholeSecond_ofMoment,
    Civil.ofMoment_injective.eq_iff, Moment.wholeSecond_ahead_eq_iff]

/-- The last moment of a leap second and the first one have the same name, also where the clock on
the wall is an hour ahead. -/
theorem fileName_tells_second_leap :
    let start : Civil := ⟨2017, 1, 1, 0, 59, 59, 1999999999⟩
    let start' : Civil := ⟨2017, 1, 1, 0, 59, 59, 1000000000⟩
    let m : Moment := ⟨1483228799, 1999999999⟩
    let m' : Moment := ⟨1483228799, 1000000000⟩
    start.isValid = true ∧ start'.isValid = true ∧ 1000000000 ≤ start.nanosecond ∧
      Civil.ofMoment (m.ahead 3600) = start ∧ Civil.ofMoment (m'.ahead 3600) = start' ∧
      startOf? "d" (nameAt "d" start) = some start.wholeSecond ∧
      (start.wholeSecond.second = 59 ∧ start.wholeSecond.nanosecond = 1000000000) ∧
      (nameAt "d" start = nameAt "d" start' ↔ start.wholeSecond = start'.wholeSecond) ∧
      (nameAt "d" start = nameAt "d" start' ↔ m.wholeSecond = m'.wholeSecond) := by
  intro start start' m m'
  have h : start.isValid = true := by decide
  have h' : start'.isValid = true := by decide
  have hleap : 1000000000 ≤ start.nanosecond := by decide
  have hm : Civil.ofMoment (m.ahead 3600) = start := by decide
  have hm' : Civil.ofMoment (m'.ahead 3600) = start' := by decide
  obtain ⟨hread, hsecond, hname, hmoment⟩ := fileName_tells_second "d" h h'
  exact ⟨h, h', hleap, hm, hm', hread, hsecond hleap, hname, hmoment 3600 m m' hm hm'⟩

end Session

end ClipboardWatchdog
