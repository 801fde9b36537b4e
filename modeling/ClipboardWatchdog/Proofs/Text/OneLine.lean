import ClipboardWatchdog.Clipboard.Snapshot
import ClipboardWatchdog.Helper.Report
import ClipboardWatchdog.Proofs.Text.Digits
import ClipboardWatchdog.Time.Clock
import ClipboardWatchdog.Time.Stamp

/-!
# Texts on one line

A text is on one line if it holds neither of the two characters that end a line of a file. What is
put together from texts on one line is on one line, and so is everything that this library makes up
itself: numbers, times, fingerprints and previews. Where a text is not on one line, one of the texts
that it shows is not.
-/

namespace ClipboardWatchdog

open Text

/-- The character ends no line. -/
def Text.IsInLine (c : Char) : Prop := c ≠ '\r' ∧ c ≠ '\n'

/-- The text holds neither a carriage return nor a line feed. -/
def OneLine (s : String) : Prop := ∀ c ∈ s.toList, IsInLine c

/-- The second text is a part of the first. -/
def Shows (s t : String) : Prop := t.toList <:+: s.toList

instance (c : Char) : Decidable (IsInLine c) := inferInstanceAs (Decidable (_ ∧ _))

instance (s : String) : Decidable (OneLine s) :=
  decidable_of_iff (s.toList.all fun c => decide (IsInLine c)) (by simp [OneLine])

@[simp] lemma oneLine_append_iff {s t : String} : OneLine (s ++ t) ↔ OneLine s ∧ OneLine t := by
  simp [OneLine, or_imp, forall_and]

lemma oneLine_ofList_iff {cs : List Char} : OneLine (String.ofList cs) ↔ ∀ c ∈ cs, IsInLine c := by
  rw [OneLine, String.toList_ofList]

lemma OneLine.of_shows {s t : String} (hs : OneLine s) (h : Shows s t) : OneLine t :=
  fun c hc => hs c (h.subset hc)

lemma Shows.refl (s : String) : Shows s s := List.infix_rfl

lemma Shows.trans {s t u : String} (h : Shows s t) (h' : Shows t u) : Shows s u :=
  List.IsInfix.trans h' h

lemma Shows.append_left {s t : String} (h : Shows s t) (front : String) : Shows (front ++ s) t := by
  rw [Shows, String.toList_append]
  exact List.IsInfix.trans h (List.suffix_append _ _).isInfix

lemma Shows.append_right {s t : String} (h : Shows s t) (back : String) : Shows (s ++ back) t := by
  rw [Shows, String.toList_append]
  exact List.IsInfix.trans h (List.prefix_append _ _).isInfix

lemma oneLine_ite {p : Prop} [Decidable p] {s t : String} (hs : OneLine s) (ht : OneLine t) :
    OneLine (if p then s else t) := by
  split
  · exact hs
  · exact ht

/-! ### Texts in a row -/

lemma oneLine_intercalate {sep : String} {texts : List String} (hsep : OneLine sep)
    (h : ∀ t ∈ texts, OneLine t) : OneLine (sep.intercalate texts) := by
  induction texts with
  | nil => exact fun c hc => by simp at hc
  | cons t texts ih =>
    have ht := h t List.mem_cons_self
    have ih := ih fun t ht => h t (List.mem_cons_of_mem _ ht)
    cases texts with
    | nil => simpa using ht
    | cons t' texts => simp [String.intercalate_cons_cons, ht, hsep, ih]

lemma shows_intercalate {sep t : String} {texts : List String} (h : t ∈ texts) :
    Shows (sep.intercalate texts) t := by
  induction texts with
  | nil => cases h
  | cons u texts ih =>
    cases texts with
    | nil =>
      obtain rfl := List.mem_singleton.mp h
      simpa using Shows.refl t
    | cons u' texts =>
      rw [String.intercalate_cons_cons]
      rcases List.mem_cons.mp h with rfl | h
      · exact ((Shows.refl t).append_right _).append_right _
      · exact (ih h).append_left _

/-! ### Numbers and times -/

lemma isInLine_of_isDigit {c : Char} (h : isDigit c = true) : IsInLine c := by
  constructor <;> (rintro rfl; cases h)

lemma isInLine_of_mem_padded {width n : ℕ} {c : Char} (h : c ∈ padded width n) : IsInLine c :=
  isInLine_of_isDigit (isDigit_of_mem_padded h)

lemma isInLine_of_mem_digits {n : ℕ} {c : Char} (h : c ∈ digits n) : IsInLine c :=
  isInLine_of_isDigit (isDigit_of_mem_digits h)

lemma isInLine_of_mem_fixedDigits {width n : ℕ} {c : Char} (h : c ∈ fixedDigits width n) :
    IsInLine c :=
  isInLine_of_isDigit (isDigit_of_mem_fixedDigits h)

@[simp] lemma oneLine_decimal (n : ℕ) : OneLine (decimal n) :=
  oneLine_ofList_iff.mpr fun _ => isInLine_of_mem_digits

@[simp] lemma oneLine_upTime (d : Span) : OneLine d.upTime := by
  refine oneLine_ofList_iff.mpr fun c hc => ?_
  simp only [List.mem_append, List.mem_cons] at hc
  rcases hc with (h | rfl | h) | rfl | h
  · exact isInLine_of_mem_padded h
  · decide
  · exact isInLine_of_mem_padded h
  · decide
  · exact isInLine_of_mem_padded h

lemma isInLine_of_mem_lineText {c : Civil} {d : Char} (h : d ∈ c.lineText) : IsInLine d := by
  simp only [Civil.lineText, Civil.timeText, Civil.milliText, Civil.pair, List.mem_append,
    List.mem_cons] at h
  rcases h with ((h | rfl | h) | rfl | h) | rfl | h
  · exact isInLine_of_mem_fixedDigits h
  · decide
  · exact isInLine_of_mem_fixedDigits h
  · decide
  · exact isInLine_of_mem_fixedDigits h
  · decide
  · exact isInLine_of_mem_fixedDigits h

lemma isInLine_of_mem_withFraction {whole width part : ℕ} {c : Char}
    (h : c ∈ Span.withFraction whole width part) : IsInLine c := by
  unfold Span.withFraction at h
  split at h
  · exact isInLine_of_mem_digits h
  · simp only [List.mem_append, List.mem_cons] at h
    rcases h with h | rfl | h
    · exact isInLine_of_mem_digits h
    · decide
    · have hmem : c ∈ fixedDigits width part :=
        List.mem_reverse.mp ((List.dropWhile_suffix _).subset (List.mem_reverse.mp h))
      exact isInLine_of_mem_fixedDigits hmem

lemma oneLine_shortText (d : Span) : OneLine d.shortText := by
  refine oneLine_ofList_iff.mpr fun c hc => ?_
  have hunit : ∀ u ∈ [['s'], ['m', 's'], ['µ', 's'], ['n', 's']], ∀ c ∈ u, IsInLine c := by
    simp [IsInLine]
  split_ifs at hc <;> rcases List.mem_append.mp hc with hc | hc
  · exact isInLine_of_mem_withFraction hc
  · exact hunit _ (by simp) c hc
  · exact isInLine_of_mem_withFraction hc
  · exact hunit _ (by simp) c hc
  · exact isInLine_of_mem_withFraction hc
  · exact hunit _ (by simp) c hc
  · exact isInLine_of_mem_digits hc
  · exact hunit _ (by simp) c hc

lemma oneLine_clockFault (cause : ClockFault) : OneLine cause.message := by
  cases cause with
  | tooEarly lead =>
    have hfront : OneLine "system time before Unix epoch: SystemTimeError(" := by decide +kernel
    have hback : OneLine ")" := by decide +kernel
    exact oneLine_append_iff.mpr ⟨oneLine_append_iff.mpr ⟨hfront, oneLine_shortText lead⟩, hback⟩
  | _ => decide +kernel

/-! ### Fingerprints and previews -/

lemma isInLine_hexDigit (n : ℕ) : IsInLine (hexDigit 'a' n) := by
  have hall : ∀ k < 16, IsInLine (hexDigit 'a' k) := by decide
  have hmod : hexDigit 'a' n = hexDigit 'a' (n % 16) := by simp [hexDigit]
  rw [hmod]
  exact hall _ (Nat.mod_lt n (by decide))

lemma isInLine_of_mem_fixedHex {width n : ℕ} {c : Char} (h : c ∈ fixedHex 'a' width n) :
    IsInLine c := by
  induction width generalizing n with
  | zero => cases h
  | succ width ih =>
    rcases List.mem_append.mp h with h | h
    · exact ih h
    · rw [List.mem_singleton.mp h]
      exact isInLine_hexDigit n

lemma oneLine_fingerprint (text : String) : OneLine (fingerprint text) := by
  refine oneLine_ofList_iff.mpr fun c hc => ?_
  simp only [List.mem_append] at hc
  rcases hc with ((h | h) | h) | h <;> exact isInLine_of_mem_fixedHex h

lemma oneLine_print (s : Snapshot) : OneLine (s.print.getD "-") := by
  unfold Snapshot.print Snapshot.fingerprintOf
  split
  · split
    · decide +kernel
    · exact oneLine_fingerprint _
  · decide +kernel

lemma isInLine_of_not_isControl {c : Char} (h : isControl c = false) : IsInLine c := by
  constructor <;> (rintro rfl; revert h; decide)

lemma mem_of_mem_trim {c : Char} {cs : List Char} (h : c ∈ trim cs) : c ∈ cs :=
  have hstart : c ∈ trimStart cs :=
    List.mem_reverse.mp ((List.dropWhile_suffix _).subset (List.mem_reverse.mp h))
  (List.dropWhile_suffix _).subset hstart

lemma mem_of_mem_ellipsis {most : ℕ} {c : Char} {cs : List Char}
    (h : c ∈ Snapshot.ellipsis most cs) : c ∈ cs ∨ c = '.' := by
  unfold Snapshot.ellipsis at h
  split at h
  · exact .inl h
  · rcases List.mem_append.mp h with h | h
    · exact .inl (List.mem_of_mem_take h)
    · exact .inr (by simpa using h)

/-- Whatever the clipboard holds, its preview has no control characters. -/
lemma not_isControl_of_mem_preview {most : ℕ} {s : Snapshot} {c : Char}
    (h : c ∈ (s.preview most).toList) : isControl c = false := by
  unfold Snapshot.preview at h
  split at h
  · have hall : "(no text)".toList.all (fun c => !isControl c) = true := by decide +kernel
    simpa using List.all_eq_true.mp hall c h
  · rw [String.toList_ofList] at h
    rcases mem_of_mem_ellipsis h with h | rfl
    · exact not_isControl_of_mem_flatten (mem_of_mem_trim h)
    · decide

/-- So it is on one line. -/
lemma oneLine_preview (most : ℕ) (s : Snapshot) : OneLine (s.preview most) :=
  fun _ hc => isInLine_of_not_isControl (not_isControl_of_mem_preview hc)

/-! ### Health -/

lemma oneLine_flag (b : Bool) : OneLine (Health.flag b) := by
  cases b <;> decide +kernel

lemma oneLine_health (h : Health) : OneLine h.summary := by
  unfold Health.summary
  split
  · simp only [oneLine_append_iff, oneLine_decimal, oneLine_flag, oneLine_upTime, and_true]
    refine ⟨⟨by decide +kernel, oneLine_ite ?_ ?_⟩, oneLine_ite ?_ ?_⟩ <;> decide +kernel
  · decide +kernel

end ClipboardWatchdog
