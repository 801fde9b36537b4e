import ClipboardWatchdog.Proofs.Text.Digits
import ClipboardWatchdog.Time.StampReader
import Mathlib.Data.List.TakeWhile

/-!
# What is taken for a stamp

A text is taken for a stamp if it is made of six numbers with separators between them, and each
number may be spelled in several ways. `Stamp` says how a text is spelled, and
`Stamp.readFileText_eq_some_iff` says that these are the texts that are read. A text is spelled in
one way at most (`Stamp.chars_inj`), so that among the spellings of a time the one that is written
can be told: `Stamp.chars_eq_fileText_iff`.
-/

namespace ClipboardWatchdog

open Text

namespace Stamp

/-- A number as it is spelled: blanks, a sign, and a row of digits. -/
structure Number where
  blanks : List Char
  sign : Option Char
  row : List Char

namespace Number

def chars (n : Number) : List Char := n.blanks ++ n.sign.toList ++ n.row

/-- The number that is spelled. -/
def value (n : Number) : Int := if n.sign = some '-' then -ofDigits n.row else ofDigits n.row

/-- Blanks, perhaps a sign, and at least one digit. -/
structure IsSpelled (n : Number) : Prop where
  blanks : ∀ c ∈ n.blanks, isBlank c = true
  sign : ∀ c ∈ n.sign, c = '+' ∨ c = '-'
  row : ∀ c ∈ n.row, isDigit c = true
  row_ne_nil : n.row ≠ []

/-- A year has a sign, or it has four digits at most. -/
structure IsYear (n : Number) : Prop extends n.IsSpelled where
  short : n.sign = none → n.row.length ≤ 4

/-- Any other number has no sign and two digits at most. -/
structure IsPair (n : Number) : Prop extends n.IsSpelled where
  unsigned : n.sign = none
  short : n.row.length ≤ 2

end Number

end Stamp

open Stamp

/-- A stamp as it is spelled: its six numbers. -/
structure Stamp where
  year : Number
  month : Number
  day : Number
  hour : Number
  minute : Number
  second : Number

namespace Stamp

/-- The characters of a stamp: its numbers with the separators between them. -/
def chars (s : Stamp) : List Char :=
  s.year.chars ++ '-' :: (s.month.chars ++ '-' :: (s.day.chars ++ '_' :: (s.hour.chars ++
    '-' :: (s.minute.chars ++ '-' :: s.second.chars))))

/-- The time that a stamp names, if there is such a time. -/
def civil? (s : Stamp) : Option Civil :=
  Civil.ofShown s.year.value (ofDigits s.month.row) (ofDigits s.day.row) (ofDigits s.hour.row)
    (ofDigits s.minute.row) (ofDigits s.second.row)

/-- The numbers of a stamp are spelled as they may be. -/
structure IsSpelled (s : Stamp) : Prop where
  year : s.year.IsYear
  month : s.month.IsPair
  day : s.day.IsPair
  hour : s.hour.IsPair
  minute : s.minute.IsPair
  second : s.second.IsPair

/-! ### One number -/

/-- The text ends a row of digits: it does not start with another one. -/
def EndsRow (cs : List Char) : Prop := ∀ c ∈ cs.head?, isDigit c = false

lemma endsRow_nil : EndsRow [] := by rintro _ ⟨⟩

lemma endsRow_cons {c : Char} (h : isDigit c = false) (cs : List Char) : EndsRow (c :: cs) := by
  rintro _ ⟨⟩
  exact h

lemma takeWhile_isDigit {row rest : List Char} (hrow : ∀ c ∈ row, isDigit c = true)
    (hrest : EndsRow rest) : (row ++ rest).takeWhile isDigit = row := by
  rw [List.takeWhile_append_of_pos hrow]
  cases rest with
  | nil => simp
  | cons c rest => simp [hrest c rfl]

lemma readDigits_append (most : Option ℕ) {row rest : List Char}
    (hrow : ∀ c ∈ row, isDigit c = true) (hne : row ≠ []) (hmost : ∀ k ∈ most, row.length ≤ k)
    (hrest : EndsRow rest) : Civil.readDigits most (row ++ rest) = some (ofDigits row, rest) := by
  have hrun := takeWhile_isDigit hrow hrest
  cases most with
  | none => simp [Civil.readDigits, hrun, hne]
  | some k => simp [Civil.readDigits, hrun, List.take_of_length_le (hmost k rfl), hne]

lemma exists_row_of_readDigits {most : Option ℕ} {cs rest : List Char} {n : ℕ}
    (h : Civil.readDigits most cs = some (n, rest)) :
    ∃ row, cs = row ++ rest ∧ (∀ c ∈ row, isDigit c = true) ∧ row ≠ [] ∧
      (∀ k ∈ most, row.length ≤ k) ∧ n = ofDigits row := by
  have hrun : ∀ c ∈ cs.takeWhile isDigit, isDigit c = true := fun c => List.mem_takeWhile_imp
  have hfront := List.takeWhile_prefix isDigit (l := cs)
  have htaken {row : List Char} (hrow : row <+: cs.takeWhile isDigit)
      (h : (if row.isEmpty then none else some (ofDigits row, cs.drop row.length)) =
        some (n, rest)) :
      cs = row ++ rest ∧ (∀ c ∈ row, isDigit c = true) ∧ row ≠ [] ∧ n = ofDigits row := by
    obtain ⟨back, hback⟩ := hrow.trans hfront
    split at h
    · cases h
    · next hne =>
      obtain ⟨rfl, rfl⟩ := Prod.mk.inj (Option.some.inj h)
      refine ⟨?_, fun c hc => hrun c (hrow.subset hc), by simpa using hne, rfl⟩
      rw [← hback, List.drop_left]
  cases most with
  | none =>
    obtain ⟨hcs, hrow, hne, hn⟩ := htaken List.prefix_rfl h
    exact ⟨_, hcs, hrow, hne, by rintro _ ⟨⟩, hn⟩
  | some k =>
    obtain ⟨hcs, hrow, hne, hn⟩ := htaken (List.take_prefix k _) h
    exact ⟨_, hcs, hrow, hne, by rintro _ ⟨⟩; exact List.length_take_le _ _, hn⟩

lemma exists_blanks (cs : List Char) :
    ∃ blanks, (∀ c ∈ blanks, isBlank c = true) ∧ cs = blanks ++ trimStart cs :=
  ⟨cs.takeWhile isBlank, fun _ => List.mem_takeWhile_imp, List.takeWhile_append_dropWhile.symm⟩

namespace Number

variable {m n : Number} {cs rest as bs : List Char}

/-- What follows the blanks of a number is not blank. -/
lemma IsSpelled.exists_mark (h : n.IsSpelled) :
    ∃ c cs, n.sign.toList ++ n.row = c :: cs ∧ isBlank c = false := by
  cases hsign : n.sign with
  | some c =>
    refine ⟨c, n.row, rfl, ?_⟩
    rcases h.sign c hsign with rfl | rfl <;> decide
  | none =>
    cases hrow : n.row with
    | nil => exact absurd hrow h.row_ne_nil
    | cons c cs =>
      exact ⟨c, cs, rfl, not_isBlank_of_isDigit (h.row c (hrow ▸ List.mem_cons_self))⟩

/-- The blanks of a number are passed, and nothing else. -/
lemma IsSpelled.blanks_eq (h : n.IsSpelled) (rest : List Char) :
    (n.chars ++ rest).takeWhile isBlank = n.blanks ∧
      trimStart (n.chars ++ rest) = n.sign.toList ++ (n.row ++ rest) := by
  obtain ⟨c, cs, hmark, hc⟩ := h.exists_mark
  have hchars : n.chars ++ rest = n.blanks ++ c :: (cs ++ rest) := by
    rw [chars, List.append_assoc n.blanks, hmark]
    simp
  have hback : n.sign.toList ++ (n.row ++ rest) = c :: (cs ++ rest) := by
    rw [← List.append_assoc, hmark, List.cons_append]
  rw [hchars, hback]
  constructor
  · rw [List.takeWhile_append_of_pos h.blanks, List.takeWhile_cons_of_neg (by simp [hc]),
      List.append_nil]
  · rw [trimStart, List.dropWhile_append_of_pos h.blanks]
    exact List.dropWhile_cons_of_neg (by simp [hc])

/-- A sign is not a digit, so that the first character after the blanks says whether there is
one. -/
lemma IsSpelled.row_append_ne (h : n.IsSpelled) {c : Char} (hc : isDigit c = false)
    (as bs : List Char) : n.row ++ as ≠ c :: bs := by
  obtain ⟨d, row, hrow⟩ := List.exists_cons_of_ne_nil h.row_ne_nil
  have hd : isDigit d = true := h.row d (hrow ▸ List.mem_cons_self)
  rw [hrow]
  intro he
  rw [(List.cons.inj he).1, hc] at hd
  cases hd

lemma IsSpelled.isDigit_sign (h : n.IsSpelled) {c : Char} (hc : n.sign = some c) :
    isDigit c = false := by
  rcases h.sign c hc with rfl | rfl <;> decide

/-- Where a number ends, and how it is spelled, is told by its characters. -/
lemma chars_append_inj (hm : m.IsSpelled) (hn : n.IsSpelled) (has : EndsRow as) (hbs : EndsRow bs)
    (h : m.chars ++ as = n.chars ++ bs) : m = n ∧ as = bs := by
  have hblanks : m.blanks = n.blanks := by
    rw [← (hm.blanks_eq as).1, h, (hn.blanks_eq bs).1]
  have hback : m.sign.toList ++ (m.row ++ as) = n.sign.toList ++ (n.row ++ bs) := by
    rw [← (hm.blanks_eq as).2, h, (hn.blanks_eq bs).2]
  obtain ⟨hsign, hrows⟩ : m.sign = n.sign ∧ m.row ++ as = n.row ++ bs := by
    cases hms : m.sign with
    | none =>
      cases hns : n.sign with
      | none => exact ⟨rfl, by simpa [hms, hns] using hback⟩
      | some d =>
        rw [hms, hns] at hback
        exact absurd hback (hm.row_append_ne (hn.isDigit_sign hns) _ _)
    | some c =>
      cases hns : n.sign with
      | none =>
        rw [hms, hns] at hback
        exact absurd hback.symm (hn.row_append_ne (hm.isDigit_sign hms) _ _)
      | some d =>
        rw [hms, hns] at hback
        obtain ⟨rfl, hrows⟩ := List.cons.inj hback
        exact ⟨rfl, hrows⟩
  have hrow : m.row = n.row := by
    rw [← takeWhile_isDigit hm.row has, hrows, takeWhile_isDigit hn.row hbs]
  refine ⟨?_, List.append_cancel_left (hrow ▸ hrows)⟩
  obtain ⟨_, _, _⟩ := m
  obtain ⟨_, _, _⟩ := n
  simp_all

lemma IsPair.read (h : n.IsPair) (hrest : EndsRow rest) :
    Civil.readPair (n.chars ++ rest) = some (ofDigits n.row, rest) := by
  rw [Civil.readPair, (h.blanks_eq rest).2, h.unsigned]
  refine readDigits_append _ h.row h.row_ne_nil ?_ hrest
  rintro _ ⟨⟩
  exact h.short

lemma exists_isPair_of_readPair {k : ℕ} (h : Civil.readPair cs = some (k, rest)) :
    ∃ n : Number, n.IsPair ∧ cs = n.chars ++ rest ∧ k = ofDigits n.row := by
  obtain ⟨blanks, hblanks, hcs⟩ := exists_blanks cs
  obtain ⟨row, htrim, hrow, hne, hmost, rfl⟩ := exists_row_of_readDigits h
  refine ⟨⟨blanks, none, row⟩, ⟨⟨hblanks, by rintro _ ⟨⟩, hrow, hne⟩, rfl, hmost 2 rfl⟩, ?_, rfl⟩
  rw [hcs, htrim]
  simp [chars]

lemma IsYear.read (h : n.IsYear) (hrest : EndsRow rest) :
    Civil.readYear (n.chars ++ rest) = some (n.value, rest) := by
  have hlong := readDigits_append none h.row h.row_ne_nil (by rintro _ ⟨⟩) hrest
  unfold Civil.readYear value
  rw [(h.blanks_eq rest).2]
  cases hsign : n.sign with
  | some c =>
    rcases h.sign c hsign with rfl | rfl
    · simp [hlong]
    · simp [hlong]
  | none =>
    have hread := readDigits_append (some 4) h.row h.row_ne_nil
      (by rintro _ ⟨⟩; exact h.short hsign) hrest
    split
    · next he => exact absurd he (h.row_append_ne (by decide) _ _)
    · next he => exact absurd he (h.row_append_ne (by decide) _ _)
    · simp [hread]

lemma exists_isYear_of_readYear {y : ℤ} (h : Civil.readYear cs = some (y, rest)) :
    ∃ n : Number, n.IsYear ∧ cs = n.chars ++ rest ∧ y = n.value := by
  obtain ⟨blanks, hblanks, hcs⟩ := exists_blanks cs
  unfold Civil.readYear at h
  split at h
  · next htrim =>
    obtain ⟨⟨k, r⟩, hread, he⟩ := Option.map_eq_some_iff.mp h
    cases he
    obtain ⟨row, rfl, hrow, hne, -, rfl⟩ := exists_row_of_readDigits hread
    refine ⟨⟨blanks, some '-', row⟩,
      ⟨⟨hblanks, by rintro _ ⟨⟩; exact .inr rfl, hrow, hne⟩, by rintro ⟨⟩⟩, ?_, rfl⟩
    rw [hcs, htrim]
    simp [chars]
  · next htrim =>
    obtain ⟨⟨k, r⟩, hread, he⟩ := Option.map_eq_some_iff.mp h
    cases he
    obtain ⟨row, rfl, hrow, hne, -, rfl⟩ := exists_row_of_readDigits hread
    refine ⟨⟨blanks, some '+', row⟩,
      ⟨⟨hblanks, by rintro _ ⟨⟩; exact .inl rfl, hrow, hne⟩, by rintro ⟨⟩⟩, ?_, rfl⟩
    rw [hcs, htrim]
    simp [chars]
  · obtain ⟨⟨k, r⟩, hread, he⟩ := Option.map_eq_some_iff.mp h
    cases he
    obtain ⟨row, htrim, hrow, hne, hmost, rfl⟩ := exists_row_of_readDigits hread
    refine ⟨⟨blanks, none, row⟩, ⟨⟨hblanks, by rintro _ ⟨⟩, hrow, hne⟩, fun _ => hmost 4 rfl⟩,
      ?_, rfl⟩
    rw [hcs, htrim]
    simp [chars]

end Number

/-! ### The whole stamp -/

variable {s t : Stamp} {cs : List Char} {c : Civil}

lemma expect_eq_some_iff {d : Char} {rest : List Char} :
    Civil.expect d cs = some rest ↔ cs = d :: rest := by
  cases cs with
  | nil => simp [Civil.expect]
  | cons e cs =>
    unfold Civil.expect
    split
    · next he => simp [he]
    · next he => simp [he]

/-- A text is read as a time exactly if it is a spelling of this time. -/
theorem readFileText_eq_some_iff :
    Civil.readFileText cs = some c ↔
      ∃ s : Stamp, s.IsSpelled ∧ s.chars = cs ∧ s.civil? = some c := by
  have hdash := endsRow_cons (c := '-') (by decide)
  have hunderscore := endsRow_cons (c := '_') (by decide)
  constructor
  · intro h
    simp only [Civil.readFileText, Option.bind_eq_bind, Option.bind_eq_some_iff] at h
    obtain ⟨⟨_, _⟩, hyear, r₁, h₁, ⟨_, _⟩, hmonth, r₂, h₂, ⟨_, _⟩, hday, r₃, h₃, ⟨_, _⟩, hhour,
      r₄, h₄, ⟨_, _⟩, hminute, r₅, h₅, ⟨_, r₆⟩, hsecond, hend⟩ := h
    obtain ⟨year, hisYear, rfl, rfl⟩ := Number.exists_isYear_of_readYear hyear
    obtain ⟨month, hisMonth, rfl, rfl⟩ := Number.exists_isPair_of_readPair hmonth
    obtain ⟨day, hisDay, rfl, rfl⟩ := Number.exists_isPair_of_readPair hday
    obtain ⟨hour, hisHour, rfl, rfl⟩ := Number.exists_isPair_of_readPair hhour
    obtain ⟨minute, hisMinute, rfl, rfl⟩ := Number.exists_isPair_of_readPair hminute
    obtain ⟨second, hisSecond, rfl, rfl⟩ := Number.exists_isPair_of_readPair hsecond
    split at hend
    · next hnil =>
      refine ⟨⟨year, month, day, hour, minute, second⟩,
        ⟨hisYear, hisMonth, hisDay, hisHour, hisMinute, hisSecond⟩, ?_, hend⟩
      dsimp only at h₁ h₂ h₃ h₄ h₅ hnil
      simp only [chars, expect_eq_some_iff.mp h₁, expect_eq_some_iff.mp h₂,
        expect_eq_some_iff.mp h₃, expect_eq_some_iff.mp h₄, expect_eq_some_iff.mp h₅,
        List.isEmpty_iff.mp hnil, List.append_nil]
    · cases hend
  · rintro ⟨s, hs, rfl, hcivil⟩
    have hsecond := hs.second.read endsRow_nil
    rw [List.append_nil] at hsecond
    have hexpect (d : Char) (rest : List Char) : Civil.expect d (d :: rest) = some rest :=
      expect_eq_some_iff.mpr rfl
    simp only [Civil.readFileText, chars, hs.year.read (hdash _), hs.month.read (hdash _),
      hs.day.read (hunderscore _), hs.hour.read (hdash _), hs.minute.read (hdash _), hsecond,
      hexpect, Option.bind_eq_bind, Option.bind_some, List.isEmpty_nil, if_true]
    exact hcivil

/-- A text is spelled in one way at most. -/
lemma chars_inj (hs : s.IsSpelled) (ht : t.IsSpelled) (h : s.chars = t.chars) : s = t := by
  have hdash := endsRow_cons (c := '-') (by decide)
  have hunderscore := endsRow_cons (c := '_') (by decide)
  obtain ⟨hyear, h⟩ := Number.chars_append_inj hs.year.1 ht.year.1 (hdash _) (hdash _) h
  obtain ⟨hmonth, h⟩ := Number.chars_append_inj hs.month.1 ht.month.1 (hdash _) (hdash _)
    (List.cons.inj h).2
  obtain ⟨hday, h⟩ := Number.chars_append_inj hs.day.1 ht.day.1 (hunderscore _) (hunderscore _)
    (List.cons.inj h).2
  obtain ⟨hhour, h⟩ := Number.chars_append_inj hs.hour.1 ht.hour.1 (hdash _) (hdash _)
    (List.cons.inj h).2
  obtain ⟨hminute, h⟩ := Number.chars_append_inj hs.minute.1 ht.minute.1 (hdash _) (hdash _)
    (List.cons.inj h).2
  obtain ⟨hsecond, -⟩ := Number.chars_append_inj hs.second.1 ht.second.1 endsRow_nil endsRow_nil
    (by simpa using (List.cons.inj h).2)
  obtain ⟨_, _, _, _, _, _⟩ := s
  obtain ⟨_, _, _, _, _, _⟩ := t
  simp_all

/-- A character that is neither blank nor a digit nor a sign stands in a stamp only as the
separator of date and time. -/
lemma IsSpelled.count_chars (hs : s.IsSpelled) {d : Char} (hblank : isBlank d = false)
    (hdigit : isDigit d = false) (hplus : d ≠ '+') (hminus : d ≠ '-') :
    s.chars.count d = if d = '_' then 1 else 0 := by
  have hnumber {n : Number} (hn : n.IsSpelled) : n.chars.count d = 0 := by
    rw [List.count_eq_zero]
    intro hmem
    rcases List.mem_append.mp hmem with hmem | hmem
    · rcases List.mem_append.mp hmem with hmem | hmem
      · rw [hn.blanks d hmem] at hblank
        cases hblank
      · exact (hn.sign d (Option.mem_toList.mp hmem)).elim hplus hminus
    · rw [hn.row d hmem] at hdigit
      cases hdigit
  simp only [chars, List.count_append, List.count_cons, hnumber hs.year.1, hnumber hs.month.1,
    hnumber hs.day.1, hnumber hs.hour.1, hnumber hs.minute.1, hnumber hs.second.1, beq_iff_eq,
    hminus.symm, if_false, Nat.zero_add, Nat.add_zero]
  simp only [eq_comm]

lemma IsSpelled.not_mem_chars (hs : s.IsSpelled) {d : Char} (hblank : isBlank d = false)
    (hdigit : isDigit d = false) (hplus : d ≠ '+') (hminus : d ≠ '-') (hmark : d ≠ '_') :
    d ∉ s.chars := by
  rw [← List.count_eq_zero, hs.count_chars hblank hdigit hplus hminus, if_neg hmark]

/-! ### The spelling that is written -/

/-- No more is written than has to be. There are no blanks; a year has a sign only where four digits
do not show it, and more than four digits only if the first is no zero; all other numbers have two
digits. -/
structure IsPlain (s : Stamp) : Prop where
  blanks : ∀ n ∈ [s.year, s.month, s.day, s.hour, s.minute, s.second], n.blanks = []
  sign : s.year.sign =
    if s.year.value < 0 then some '-' else if 9999 < s.year.value then some '+' else none
  width : 4 ≤ s.year.row.length
  zero : 4 < s.year.row.length → s.year.row.head? ≠ some '0'
  pairs : ∀ n ∈ [s.month, s.day, s.hour, s.minute, s.second], n.row.length = 2

/-- A number of two digits as it is written. -/
def pair (n : ℕ) : Number := ⟨[], none, Civil.pair n⟩

/-- The stamp of a time as it is written. -/
def written (c : Civil) : Stamp where
  year := ⟨[], if c.year < 0 then some '-' else if 9999 < c.year then some '+' else none,
    padded 4 c.year.natAbs⟩
  month := pair c.month
  day := pair c.day
  hour := pair c.hour
  minute := pair c.minute
  second := pair c.shownSecond

lemma isPair_pair (n : ℕ) : (pair n).IsPair where
  blanks := by rintro _ ⟨⟩
  sign := by rintro _ ⟨⟩
  row _ := isDigit_of_mem_fixedDigits
  row_ne_nil := by simp [pair, Civil.pair, fixedDigits]
  unsigned := rfl
  short := by simp [pair, Civil.pair]

lemma chars_pair (n : ℕ) : (pair n).chars = Civil.pair n := rfl

lemma chars_year_written (c : Civil) : (written c).year.chars = c.yearText := by
  unfold written Number.chars Civil.yearText
  dsimp only
  by_cases hneg : c.year < 0
  · rw [if_pos hneg, if_neg (by omega), if_pos hneg]
    rfl
  · by_cases hlong : 9999 < c.year
    · rw [if_neg hneg, if_pos hlong, if_neg (by omega), if_neg hneg]
      rfl
    · have habs : c.year.natAbs = c.year.toNat := by omega
      rw [if_neg hneg, if_neg hlong, if_pos (by omega), habs, padded_of_lt (by decide) (by omega)]
      rfl

lemma chars_written (c : Civil) : (written c).chars = c.fileText := by
  unfold chars
  rw [chars_year_written]
  simp [written, chars_pair, Civil.fileText, Civil.dateText, Civil.timeText]

lemma isSpelled_written (c : Civil) : (written c).IsSpelled where
  year :=
    { blanks := by rintro _ ⟨⟩
      sign := by
        intro d hd
        dsimp only [written] at hd
        split_ifs at hd
        · exact .inr (Option.some.inj hd).symm
        · exact .inl (Option.some.inj hd).symm
        · cases hd
      row := fun _ => isDigit_of_mem_padded
      row_ne_nil := padded_ne_nil 4 _
      short := by
        dsimp only [written]
        intro hnone
        have hlt : c.year.natAbs < 10 ^ 4 := by
          split_ifs at hnone with hneg hlong
          omega
        rw [padded_of_lt (by decide) hlt, length_fixedDigits] }
  month := isPair_pair _
  day := isPair_pair _
  hour := isPair_pair _
  minute := isPair_pair _
  second := isPair_pair _

/-- The number of two digits that a row spells. -/
lemma IsPlain.eq_pair (h : s.IsPlain) {n : Number}
    (hmem : n ∈ [s.month, s.day, s.hour, s.minute, s.second]) (hn : n.IsPair) :
    n = pair (ofDigits n.row) := by
  have hblanks := h.blanks n (List.mem_cons_of_mem _ hmem)
  have hrow := fixedDigits_ofDigits hn.row
  rw [h.pairs n hmem] at hrow
  have hunsigned := hn.unsigned
  obtain ⟨blanks, sign, row⟩ := n
  dsimp only at hblanks hunsigned hrow
  rw [pair, Civil.pair, hrow, hblanks, hunsigned]

/-- A stamp names a time that exists, and the fields of the time are its numbers. -/
lemma fields_of_civil? (h : s.civil? = some c) :
    c.isValid = true ∧ c.year = s.year.value ∧ c.month = ofDigits s.month.row ∧
      c.day = ofDigits s.day.row ∧ c.hour = ofDigits s.hour.row ∧
      c.minute = ofDigits s.minute.row ∧ c.shownSecond = ofDigits s.second.row := by
  unfold civil? Civil.ofShown at h
  dsimp only at h
  split at h
  · next hleap =>
    split at h
    · next hvalid =>
      obtain rfl := Option.some.inj h
      exact ⟨hvalid, rfl, rfl, rfl, rfl, rfl, hleap.symm⟩
    · cases h
  · split at h
    · next hvalid =>
      obtain rfl := Option.some.inj h
      exact ⟨hvalid, rfl, rfl, rfl, rfl, rfl, rfl⟩
    · cases h

lemma value_year_written (c : Civil) : (written c).year.value = c.year := by
  unfold written Number.value
  dsimp only
  rw [ofDigits_padded]
  by_cases hneg : c.year < 0
  · rw [if_pos hneg, if_pos rfl]
    omega
  · have hsign : ¬(if 9999 < c.year then some '+' else none) = some '-' := by split <;> decide
    rw [if_neg hneg, if_neg hsign]
    omega

lemma isPlain_written (c : Civil) : (written c).IsPlain where
  blanks := by simp [written, pair]
  sign := by rw [value_year_written]; rfl
  width := length_padded 4 _
  zero := head?_padded (by decide)
  pairs := by simp [written, pair, Civil.pair]

/-- A stamp that is spelled plainly is the one that is written for its time. -/
lemma IsPlain.eq_written (h : s.IsPlain) (hs : s.IsSpelled) (hc : s.civil? = some c) :
    s = written c := by
  obtain ⟨-, hyear, hmonth, hday, hhour, hminute, hsecond⟩ := fields_of_civil? hc
  have hrow : padded 4 c.year.natAbs = s.year.row := by
    have habs : c.year.natAbs = ofDigits s.year.row := by
      rw [hyear, Number.value]
      split <;> omega
    rw [habs]
    exact padded_ofDigits (by decide) hs.year.row h.width h.zero
  have hblanks := h.blanks s.year List.mem_cons_self
  have hsign := h.sign
  rw [← hyear] at hsign
  have hyears : s.year = (written c).year := by
    rw [written, hrow, ← hsign, ← hblanks]
  have hpair {n : Number} (hmem : n ∈ [s.month, s.day, s.hour, s.minute, s.second])
      (hn : n.IsPair) : n = pair (ofDigits n.row) := h.eq_pair hmem hn
  have hmonths := hpair (by simp) hs.month
  have hdays := hpair (by simp) hs.day
  have hhours := hpair (by simp) hs.hour
  have hminutes := hpair (by simp) hs.minute
  have hseconds := hpair (by simp) hs.second
  rw [← hmonth] at hmonths
  rw [← hday] at hdays
  rw [← hhour] at hhours
  rw [← hminute] at hminutes
  rw [← hsecond] at hseconds
  obtain ⟨year, month, day, hour, minute, second⟩ := s
  dsimp only at hyears hmonths hdays hhours hminutes hseconds
  rw [hyears, hmonths, hdays, hhours, hminutes, hseconds]
  rfl

/-- Of all the spellings of a time the plain one is written. -/
theorem chars_eq_fileText_iff (hs : s.IsSpelled) (hc : s.civil? = some c) :
    s.chars = c.fileText ↔ s.IsPlain := by
  constructor
  · intro h
    rw [chars_inj hs (isSpelled_written c) (h.trans (chars_written c).symm)]
    exact isPlain_written c
  · intro h
    rw [h.eq_written hs hc, chars_written]

end Stamp

end ClipboardWatchdog
