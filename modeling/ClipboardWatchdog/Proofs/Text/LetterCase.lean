import ClipboardWatchdog.Text.Lowercase
import Mathlib.Data.String.Basic

/-!
# Names in any letter case

The lower-case form of a text is taken over all of Unicode, so that letters of other alphabets might
become letters of the basic one. Only one does: the Kelvin sign has the lower-case form `k`. A text
has a name without that letter as its lower-case form exactly if it spells the name in small and
capital letters of the basic alphabet.
-/

namespace ClipboardWatchdog.Text

/-- A small letter of the basic alphabet that is the lower-case form of no letter of another one. -/
def IsOwnSmall (l : Char) : Prop := 0x61 ≤ l.toNat ∧ l.toNat ≤ 0x7A ∧ l ≠ 'k'

instance (l : Char) : Decidable (IsOwnSmall l) := inferInstanceAs (Decidable (_ ∧ _ ∧ _))

variable {c l : Char} {cs before name : List Char}

lemma IsOwnSmall.ne (hl : IsOwnSmall l) (hc : 0x80 ≤ c.toNat) : c ≠ l := by
  rintro rfl
  have hlast := hl.2.1
  omega

lemma IsOwnSmall.ofNat_ne (hl : IsOwnSmall l) {n : ℕ} (hn : 0x80 ≤ n) : Char.ofNat n ≠ l := by
  by_cases hvalid : n.isValidChar
  · have hc : Char.ofNat n = Char.ofNatAux n hvalid := dif_pos hvalid
    exact hc ▸ hl.ne hn
  · have hc : Char.ofNat n = Char.ofNat 0 := dif_neg hvalid
    rintro rfl
    exact absurd (hc ▸ hl.1) (by decide)

lemma isUpper_iff : c.isUpper = true ↔ 0x41 ≤ c.toNat ∧ c.toNat ≤ 0x5A := decide_eq_true_iff

lemma toLower_of_not_isUpper (h : ¬c.isUpper = true) : c.toLower = c :=
  dif_neg fun hc => h (decide_eq_true hc)

/-- The lower-case forms of the capitals of the basic alphabet. -/
lemma lowerChar_of_isUpper (h : c.isUpper = true) : lowerChar c = c.toLower := by
  have hall : ∀ n ≤ 0x5A, 0x41 ≤ n → lowerChar (Char.ofNat n) = (Char.ofNat n).toLower := by
    decide +kernel
  obtain ⟨hfirst, hlast⟩ := isUpper_iff.mp h
  have hc := hall c.toNat hlast hfirst
  rwa [Char.ofNat_toNat] at hc

/-- A run is that of the capitals of the basic alphabet, or it holds no character of ASCII. In the
latter case it leads back to ASCII only if it is that of the Kelvin sign. -/
lemma mem_caseRuns_cases {r : CaseRun} (h : r ∈ caseRuns) :
    0x41 ≤ r.first ∧ r.last ≤ 0x5A ∨
      (r.first = 0x212A ∧ r.last = 0x212A ∧ r.first + r.up - r.down = 0x6B) ∨
      0x80 ≤ r.first ∧ 0x80 ≤ r.first + r.up - r.down := by
  have hall : ∀ r ∈ caseRuns, 0x41 ≤ r.first ∧ r.last ≤ 0x5A ∨
      (r.first = 0x212A ∧ r.last = 0x212A ∧ r.first + r.up - r.down = 0x6B) ∨
      0x80 ≤ r.first ∧ 0x80 ≤ r.first + r.up - r.down := by
    decide +kernel
  exact hall r h

/-- A character that is no capital of the basic alphabet becomes a small letter of it only if it is
that letter. -/
lemma lowerChar_eq_iff_of_not_isUpper (h : ¬c.isUpper = true) (hl : IsOwnSmall l) :
    lowerChar c = l ↔ c = l := by
  unfold lowerChar
  split
  · next r hfind =>
    have hcontains := List.find?_some hfind
    simp only [CaseRun.contains, Bool.and_eq_true, decide_eq_true_eq] at hcontains
    obtain ⟨⟨hfirst, hlast⟩, -⟩ := hcontains
    rcases mem_caseRuns_cases (List.mem_of_find?_eq_some hfind) with
      hbasic | ⟨hkelvin, hkelvin', hlow⟩ | hother
    · exact absurd (isUpper_iff.mpr ⟨by omega, by omega⟩) h
    · have hc : c.toNat = r.first := by omega
      rw [hc, hlow]
      exact iff_of_false (Ne.symm hl.2.2) (hl.ne (by omega))
    · exact iff_of_false (hl.ofNat_ne (by omega)) (hl.ne (by omega))
  · rfl

lemma lowerChar_eq_iff (hl : IsOwnSmall l) : lowerChar c = l ↔ c.toLower = l := by
  by_cases h : c.isUpper = true
  · rw [lowerChar_of_isUpper h]
  · rw [lowerChar_eq_iff_of_not_isUpper h hl, toLower_of_not_isUpper h]

/-- The two characters whose lower-case form is not that of the table do not become letters of the
basic alphabet: not the sigma, and not the dotted `İ`, which keeps its dot. -/
lemma lowerFrom_eq_iff (hname : ∀ l ∈ name, IsOwnSmall l) :
    lowerFrom before cs = name ↔ cs.map Char.toLower = name := by
  induction cs generalizing before name with
  | nil => rfl
  | cons c cs ih =>
    cases name with
    | nil =>
      unfold lowerFrom
      split_ifs <;> simp
    | cons l name =>
      obtain ⟨hl, hrest⟩ := List.forall_mem_cons.mp hname
      unfold lowerFrom
      dsimp only
      split_ifs with hsigma hend hdotted
      · subst hsigma
        simp [hl.ne (c := 'ς') (by decide), hl.ne (c := 'Σ') (by decide)]
      · subst hsigma
        simp [hl.ne (c := 'σ') (by decide), hl.ne (c := 'Σ') (by decide)]
      · subst hdotted
        refine iff_of_false (fun heq => ?_) (by simp [hl.ne (c := 'İ') (by decide)])
        obtain ⟨-, rfl⟩ := List.cons_eq_cons.mp heq
        exact (hrest '\u0307' List.mem_cons_self).ne (by decide) rfl
      · rw [List.singleton_append, List.map_cons, List.cons_eq_cons, List.cons_eq_cons,
          lowerChar_eq_iff hl, ih hrest]

/-- A text has such a name as its lower-case form if it spells the name in letters of either
case. -/
lemma lowercase_eq_iff {s name : String} (hname : ∀ l ∈ name.toList, IsOwnSmall l) :
    lowercase s = name ↔ s.toList.map Char.toLower = name.toList := by
  rw [lowercase, String.ofList_eq]
  exact lowerFrom_eq_iff hname

end ClipboardWatchdog.Text
