import ClipboardWatchdog.Proofs.Text.OneLine
import Mathlib.Data.List.TakeWhile

/-!
# Previews

A preview shows the start of a text on one line. The text with spaces in place of its control
characters falls into blanks, a core and blanks again, where the core neither starts nor ends in a
blank (`Text.IsTrimmed`). There is one such core, and the preview is the core or, where that is too
long, its start and three dots.
-/

namespace ClipboardWatchdog

namespace Text

variable {cs core front rest : List Char}

/-- The core of a text: what is left when the blanks at both ends are taken away. -/
structure IsTrimmed (cs core : List Char) : Prop where
  cut : ∃ front back, cs = front ++ core ++ back ∧ ∀ c ∈ front ++ back, isBlank c = true
  first : ∀ c ∈ core.head?, isBlank c = false
  last : ∀ c ∈ core.getLast?, isBlank c = false

lemma trimStart_append (h : ∀ c ∈ front, isBlank c = true) :
    trimStart (front ++ rest) = trimStart rest :=
  List.dropWhile_append_of_pos h

lemma trimStart_of_head? (h : ∀ c ∈ cs.head?, isBlank c = false) : trimStart cs = cs := by
  cases cs with
  | nil => rfl
  | cons c cs => exact List.dropWhile_cons_of_neg (by simp [h c rfl])

lemma head?_trimStart (cs : List Char) : ∀ c ∈ (trimStart cs).head?, isBlank c = false := by
  intro c hc
  have hfirst := List.head?_dropWhile_not isBlank cs
  rw [← trimStart, Option.mem_def.mp hc] at hfirst
  exact hfirst

lemma exists_trimStart (cs : List Char) :
    ∃ front, cs = front ++ trimStart cs ∧ ∀ c ∈ front, isBlank c = true :=
  ⟨cs.takeWhile isBlank, List.takeWhile_append_dropWhile.symm, fun _ => List.mem_takeWhile_imp⟩

lemma trimEnd_eq (cs : List Char) : trimEnd cs = (trimStart cs.reverse).reverse := rfl

lemma exists_trimEnd (cs : List Char) :
    ∃ back, cs = trimEnd cs ++ back ∧ ∀ c ∈ back, isBlank c = true := by
  obtain ⟨front, hfront, hblank⟩ := exists_trimStart cs.reverse
  refine ⟨front.reverse, ?_, fun c hc => hblank c (List.mem_reverse.mp hc)⟩
  rw [trimEnd_eq, ← List.reverse_append, ← hfront, List.reverse_reverse]

/-- Every text has a core. -/
lemma isTrimmed_trim (cs : List Char) : IsTrimmed cs (trim cs) := by
  obtain ⟨front, hfront, hblank⟩ := exists_trimStart cs
  obtain ⟨back, hback, hblank'⟩ := exists_trimEnd (trimStart cs)
  refine ⟨⟨front, back, ?_, List.forall_mem_append.mpr ⟨hblank, hblank'⟩⟩, ?_, ?_⟩
  · rw [List.append_assoc, trim, ← hback, ← hfront]
  · -- the end that is taken away does not reach the first character, if there is one
    intro c hc
    refine head?_trimStart cs c ?_
    rw [hback, ← trim, List.head?_append, Option.mem_def.mp hc]
    rfl
  · intro c hc
    rw [trim, trimEnd_eq, List.getLast?_reverse] at hc
    exact head?_trimStart _ c hc

/-- No text has two cores. -/
lemma IsTrimmed.eq_trim (h : IsTrimmed cs core) : core = trim cs := by
  obtain ⟨⟨front, back, rfl, hblank⟩, hfirst, hlast⟩ := h
  obtain ⟨hfront, hback⟩ := List.forall_mem_append.mp hblank
  have hend : trimEnd (core ++ back) = core := by
    rw [trimEnd_eq, List.reverse_append, trimStart_append (by simpa using hback),
      trimStart_of_head? (by simpa using hlast), List.reverse_reverse]
  rw [trim, List.append_assoc, trimStart_append hfront]
  cases core with
  | nil =>
    have hnil : trimStart (back ++ []) = trimStart [] := trimStart_append hback
    rw [List.append_nil] at hnil
    rw [List.nil_append, hnil]
    rfl
  | cons c core =>
    have hfirst : ∀ x ∈ (c :: core ++ back).head?, isBlank x = false := hfirst
    rw [trimStart_of_head? hfirst, hend]

lemma isTrimmed_iff : IsTrimmed cs core ↔ core = trim cs :=
  ⟨IsTrimmed.eq_trim, fun h => h ▸ isTrimmed_trim cs⟩

end Text

open Text

namespace Snapshot

variable {s : Snapshot} {text : String}

/-- What the preview shows of a text: its one core, or the start of the core and three dots. -/
lemma exists_shown (h : s.text = some text) (most : ℕ) :
    ∃ shown, (∀ core, IsTrimmed (flatten text.toList) core ↔ core = shown) ∧
      (s.preview most).toList =
        if shown.length ≤ most then shown else shown.take most ++ ['.', '.', '.'] := by
  refine ⟨trim (flatten text.toList), fun core => isTrimmed_iff, ?_⟩
  unfold preview
  rw [h, String.toList_ofList, ellipsis]

lemma length_preview_le (h : s.text = some text) (most : ℕ) :
    (s.preview most).length ≤ most + 3 := by
  obtain ⟨shown, -, hshown⟩ := exists_shown h most
  rw [← String.length_toList, hshown]
  split
  · omega
  · rw [List.length_append, List.length_take]
    exact Nat.add_le_add_right (Nat.min_le_left _ _) 3

end Snapshot

end ClipboardWatchdog
