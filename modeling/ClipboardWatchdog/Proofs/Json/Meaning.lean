import ClipboardWatchdog.Proofs.Json.Grammar

/-!
# What a string means

`Json.Means cs t` says that the spelling `cs` stands for the characters `t`. A character outside
the first plane may be spelled by two units, of which neither means anything by itself. Reading a
meaning is deciding this relation, and every text has the spelling that it is written with.
-/

namespace ClipboardWatchdog.Json

open Text

/-- A unit that stands for a character by itself. -/
def IsSingleUnit (n : ℕ) : Prop := isHighUnit n = false ∧ isLowUnit n = false

/-- The character that a high and a low unit stand for together. -/
def pairedUnits (high low : ℕ) : Char :=
  Char.ofNat (0x10000 + (high - 0xD800) * 0x400 + (low - 0xDC00))

inductive Means : List Char → List Char → Prop
  | nil : Means [] []
  | plain {c : Char} {cs t : List Char} (hc : c ≠ '\\') (h : Means cs t) : Means (c :: cs) (c :: t)
  | short {e c : Char} {cs t : List Char} (he : (e, c) ∈ shortEscapes) (h : Means cs t) :
    Means ('\\' :: e :: cs) (c :: t)
  | unit {a b c d : Char} {n : ℕ} {cs t : List Char} (hunit : hexUnit? a b c d = some n)
    (hsingle : IsSingleUnit n) (h : Means cs t) :
    Means ('\\' :: 'u' :: a :: b :: c :: d :: cs) (Char.ofNat n :: t)
  | pair {a b c d e f g h : Char} {high low : ℕ} {cs t : List Char}
    (hhigh : hexUnit? a b c d = some high) (hlow : hexUnit? e f g h = some low)
    (hisHigh : isHighUnit high = true) (hisLow : isLowUnit low = true) (hcs : Means cs t) :
    Means ('\\' :: 'u' :: a :: b :: c :: d :: '\\' :: 'u' :: e :: f :: g :: h :: cs)
      (pairedUnits high low :: t)

variable {cs t : List Char}

/-- No unit both opens and closes a pair. -/
lemma isLowUnit_of_isHighUnit {n : ℕ} (h : isHighUnit n = true) : isLowUnit n = false := by
  simp [isHighUnit, isLowUnit] at h ⊢
  omega

lemma unescape_of_means (h : Means cs t) : unescape cs = some t := by
  induction h with
  | nil => rfl
  | plain hc _ ih =>
    rw [unescape, if_neg hc, ih, Option.map_some]
    · rintro a b c d rest rfl
      exact absurd rfl hc
    · rintro e rest rfl
      exact absurd rfl hc
  | short he _ ih =>
    have hsome := mem_shortEscapes_iff.mp he
    rw [unescape, hsome, ih]
    · rfl
    · rintro a b c d rest rfl
      cases hsome
  | unit hunit hsingle _ ih =>
    rw [unescape, hunit]
    simp [hsingle.1, hsingle.2, ih]
  | pair hhigh hlow hisHigh hisLow _ ih =>
    rw [unescape, hhigh]
    simp [isLowUnit_of_isHighUnit hisHigh, hisHigh, hlow, hisLow, ih, pairedUnits]

lemma means_of_unescape (h : unescape cs = some t) : Means cs t := by
  fun_induction unescape cs generalizing t with
  | case1 =>
    obtain rfl := Option.some.inj h
    exact .nil
  | case4 a b c d high hhigh _ hisHigh e f g h' rest low hlow hisLow ih =>
    obtain ⟨t, ht, rfl⟩ := Option.map_eq_some_iff.mp h
    exact .pair hhigh hlow hisHigh hisLow (ih ht)
  | case8 a b c d rest n hunit hlow hhigh ih =>
    obtain ⟨t, ht, rfl⟩ := Option.map_eq_some_iff.mp h
    exact .unit hunit ⟨Bool.eq_false_iff.mpr hhigh, Bool.eq_false_iff.mpr hlow⟩ (ih ht)
  | case9 e rest _ c he ih =>
    obtain ⟨t, ht, rfl⟩ := Option.map_eq_some_iff.mp h
    exact .short (mem_shortEscapes_iff.mpr he) (ih ht)
  | case12 c rest _ _ hc ih =>
    obtain ⟨t, ht, rfl⟩ := Option.map_eq_some_iff.mp h
    exact .plain hc (ih ht)
  | _ => cases h

/-- The meaning of a spelling is what is read from it. -/
theorem unescape_eq_some_iff : unescape cs = some t ↔ Means cs t :=
  ⟨means_of_unescape, unescape_of_means⟩

lemma Means.eq {t' : List Char} (h : Means cs t) (h' : Means cs t') : t = t' :=
  Option.some.inj ((unescape_of_means h).symm.trans (unescape_of_means h'))

/-! ### What is written for a character -/

/-- How a character can be written: as itself, with one letter, or as a unit. -/
inductive Escaped (c : Char) : List Char → Prop
  | plain (hprint : 32 ≤ c.toNat) (hquote : c ≠ '"') (hslash : c ≠ '\\') : Escaped c [c]
  | short {e : Char} (he : (e, c) ∈ shortEscapes) : Escaped c ['\\', e]
  | unit {a b d e : Char} (hunit : hexUnit? a b d e = some c.toNat)
    (hsingle : IsSingleUnit c.toNat) : Escaped c ['\\', 'u', a, b, d, e]

/-- The digits of a control character are the number of that character. -/
lemma hexUnit?_fixedHex {n : ℕ} (h : n < 32) :
    hexUnit? (hexDigit 'a' (n / 16 / 16 / 16)) (hexDigit 'a' (n / 16 / 16)) (hexDigit 'a' (n / 16))
      (hexDigit 'a' n) = some n := by
  have hall : ∀ k < 32, hexUnit? (hexDigit 'a' (k / 16 / 16 / 16)) (hexDigit 'a' (k / 16 / 16))
      (hexDigit 'a' (k / 16)) (hexDigit 'a' k) = some k := by
    decide
  exact hall n h

lemma escaped_escapeChar (c : Char) : Escaped c (escapeChar c) := by
  have hchar : ∀ n, c.toNat = n → c = Char.ofNat n := by
    rintro n rfl
    exact (Char.ofNat_toNat c).symm
  unfold escapeChar
  split_ifs with hquote hslash hn hr ht hb hf hprint
  · exact .short (by rw [hquote]; decide)
  · exact .short (by rw [hslash]; decide)
  · exact .short (by rw [hn]; decide)
  · exact .short (by rw [hr]; decide)
  · exact .short (by rw [ht]; decide)
  · exact .short (by rw [hchar 8 hb]; decide)
  · exact .short (by rw [hchar 12 hf]; decide)
  · refine .unit (hexUnit?_fixedHex hprint) ?_
    simp [IsSingleUnit, isHighUnit, isLowUnit]
    omega
  · exact .plain (by omega) hquote hslash

lemma escape_cons (c : Char) (t : List Char) : escape (c :: t) = escapeChar c ++ escape t := rfl

/-- What is written for a text means that text. -/
theorem means_escape (t : List Char) : Means (escape t) t := by
  induction t with
  | nil => exact .nil
  | cons c t ih =>
    have hc := escaped_escapeChar c
    rw [escape_cons]
    generalize escapeChar c = cs at hc
    cases hc with
    | plain _ _ hslash => exact .plain hslash ih
    | short he => exact .short he ih
    | unit hunit hsingle =>
      rw [← Char.ofNat_toNat c]
      exact .unit hunit hsingle ih

theorem isSpelling_escape (t : List Char) : IsSpelling (escape t) := by
  induction t with
  | nil => exact .nil
  | cons c t ih =>
    have hc := escaped_escapeChar c
    rw [escape_cons]
    generalize escapeChar c = cs at hc
    cases hc with
    | plain hprint hquote hslash => exact .plain hprint hquote hslash ih
    | short he => exact .short he ih
    | unit hunit => exact .unit hunit ih

/-! ### What is written for a value -/

lemma written_ofText (s : String) : Written (.value (ofText s)) (compactChars (ofText s)) := by
  rw [ofText, compactChars]
  exact .string (isSpelling_escape s.toList)

lemma written_ofNat (n : ℕ) : Written (.value (ofNat n)) (compactChars (ofNat n)) := by
  rw [ofNat, compactChars]
  exact .number (isNumber_digits n)

end ClipboardWatchdog.Json
