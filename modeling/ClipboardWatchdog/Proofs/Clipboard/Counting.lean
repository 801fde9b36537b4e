import ClipboardWatchdog.Clipboard.CopyCounter
import Mathlib.Data.List.Induction
import Mathlib.Tactic.Common

/-!
# What polling counts

The counter is told of one reading after the other and keeps little of them. What it keeps is a
function of all the readings so far (`remembers_observed`), and so is what it reports on the next
one: which outcome that is, and what stands in the report of a copy.
-/

namespace ClipboardWatchdog

/-- A reading of the clipboard, with the sequence numbers sampled before and after it. A reading of
nothing failed. -/
structure Reading where
  read : Option String
  before : ℕ
  after : ℕ
  deriving DecidableEq, Repr

namespace Reading

/-- The text that was read, unless the reading failed or found none. -/
def text? (r : Reading) : Option String := r.read.filter (· ≠ "")

/-- The last text that some readings found. -/
def latest (past : List Reading) : Option String := (past.filterMap text?).getLast?

/-- The reading found a text, and it is not the last one that was found before. -/
def isCopy (past : List Reading) (r : Reading) : Bool :=
  r.text?.any fun text => latest past ≠ some text

/-- A copy was found by the reading at a place of a row. -/
def isCopyAt (run : List Reading) (i : ℕ) : Bool := run[i]?.any (isCopy (run.take i))

/-- The number of copies that a row of readings found. -/
def copies (run : List Reading) : ℕ := (List.range run.length).countP (isCopyAt run)

lemma text?_eq_some_iff {r : Reading} {text : String} :
    r.text? = some text ↔ r.read = some text ∧ text ≠ "" := by
  simp [text?, Option.filter_eq_some_iff]

lemma text?_eq_none_iff {r : Reading} : r.text? = none ↔ r.read = none ∨ r.read = some "" := by
  cases h : r.read with
  | none => simp [text?, h]
  | some text => by_cases he : text = "" <;> simp [text?, h, he, Option.filter_some]

lemma isCopy_iff {past : List Reading} {r : Reading} :
    isCopy past r = true ↔ ∃ text, r.text? = some text ∧ latest past ≠ some text := by
  simp [isCopy, Option.any_eq_true]

lemma isCopy_eq_false_iff {past : List Reading} {r : Reading} :
    isCopy past r = false ↔ ∀ text, r.text? = some text → latest past = some text := by
  simp [isCopy, Option.any_eq_false]

lemma latest_concat (past : List Reading) (r : Reading) :
    latest (past ++ [r]) = r.text?.or (latest past) := by
  simp only [latest, List.filterMap_append, List.getLast?_append]
  cases h : r.text? <;> simp [h]

/-- Whether a reading found a copy depends on the readings before it alone. -/
lemma isCopyAt_concat_of_lt {past : List Reading} {i : ℕ} (r : Reading) (h : i < past.length) :
    isCopyAt (past ++ [r]) i = isCopyAt past i := by
  unfold isCopyAt
  rw [List.getElem?_append_left h, List.take_append_of_le_length (Nat.le_of_lt h)]

lemma isCopyAt_concat_length (past : List Reading) (r : Reading) :
    isCopyAt (past ++ [r]) past.length = isCopy past r := by
  simp [isCopyAt]

lemma copies_concat (past : List Reading) (r : Reading) :
    copies (past ++ [r]) = copies past + if isCopy past r then 1 else 0 := by
  have hpast : (List.range past.length).countP (isCopyAt (past ++ [r])) = copies past := by
    apply List.countP_congr
    intro i hi
    rw [isCopyAt_concat_of_lt r (List.mem_range.mp hi)]
  unfold copies at hpast ⊢
  rw [List.length_append, List.length_singleton, List.range_succ, List.countP_append, hpast,
    List.countP_singleton, isCopyAt_concat_length]

end Reading

namespace CopyCounter

open Reading

/-- Takes in a reading. -/
def take (c : CopyCounter) (r : Reading) : PollOutcome × CopyCounter :=
  c.observe r.read r.before r.after

/-- The counter after a row of readings. -/
def observed (threshold : ℕ) (run : List Reading) : CopyCounter :=
  run.foldl (fun c r => (c.take r).2) (.new threshold)

lemma observed_concat (threshold : ℕ) (past : List Reading) (r : Reading) :
    observed threshold (past ++ [r]) =
      ((observed threshold past).take r).2 := by
  simp [observed]

/-- The counter with a reading seen that is no copy: the sequence number moves alone. -/
def seen (c : CopyCounter) (r : Reading) : CopyCounter := { c with lastSequence := some r.after }

/-- The copy that the counter makes of a reading. -/
def copyOf (c : CopyCounter) (r : Reading) (text : String) : Copy where
  number := c.count + 1
  resetDue := (c.count + 1) % c.threshold == 0
  signalMissing := c.signalMissing r.before r.after
  sequence := r.after
  text := text

/-- The counter with a copy counted. -/
def counted (c : CopyCounter) (r : Reading) (text : String) : CopyCounter :=
  { c.seen r with count := c.count + 1, lastText := some text }

/-- What taking in a reading comes to. -/
inductive Taken (c : CopyCounter) (r : Reading) : PollOutcome × CopyCounter → Prop
  | failed (hread : r.read = none) : Taken c r (.inaccessible, c.seen r)
  | empty (hread : r.read = some "") : Taken c r (.noText, c.seen r)
  | known (text : String) (htext : r.text? = some text) (hlast : c.lastText = some text) :
    Taken c r (.unchanged, c.seen r)
  | copied (text : String) (htext : r.text? = some text) (hlast : c.lastText ≠ some text) :
    Taken c r (.changed (c.copyOf r text), c.counted r text)

lemma taken_take (c : CopyCounter) (r : Reading) : Taken c r (c.take r) := by
  cases hread : r.read with
  | none =>
    have heq : c.take r = (.inaccessible, c.seen r) := by simp [take, observe, seen, hread]
    rw [heq]
    exact .failed hread
  | some text =>
    by_cases hempty : text = ""
    · have heq : c.take r = (.noText, c.seen r) := by simp [take, observe, seen, hread, hempty]
      rw [heq]
      exact .empty (hempty ▸ hread)
    · have htext : r.text? = some text := text?_eq_some_iff.mpr ⟨hread, hempty⟩
      by_cases hlast : c.lastText = some text
      · have heq : c.take r = (.unchanged, c.seen r) := by
          simp [take, observe, seen, hread, hempty, hlast]
        rw [heq]
        exact .known text htext hlast
      · have heq : c.take r = (.changed (c.copyOf r text), c.counted r text) := by
          simp [take, observe, counted, seen, copyOf, hread, hempty, hlast]
        rw [heq]
        exact .copied text htext hlast

lemma take_eq_inaccessible_iff (c : CopyCounter) (r : Reading) :
    (c.take r).1 = .inaccessible ↔ r.read = none := by
  match c.take r, c.taken_take r with
  | _, .failed hread => simp [hread]
  | _, .empty hread => simp [hread]
  | _, .known text htext _ => simp [(text?_eq_some_iff.mp htext).1]
  | _, .copied text htext _ => simp [(text?_eq_some_iff.mp htext).1]

lemma take_eq_noText_iff (c : CopyCounter) (r : Reading) :
    (c.take r).1 = .noText ↔ r.read = some "" := by
  match c.take r, c.taken_take r with
  | _, .failed hread => simp [hread]
  | _, .empty hread => simp [hread]
  | _, .known text htext _ =>
    obtain ⟨hread, hne⟩ := text?_eq_some_iff.mp htext
    simp [hread, hne]
  | _, .copied text htext _ =>
    obtain ⟨hread, hne⟩ := text?_eq_some_iff.mp htext
    simp [hread, hne]

lemma take_eq_unchanged_iff (c : CopyCounter) (r : Reading) :
    (c.take r).1 = .unchanged ↔ ∃ text, r.text? = some text ∧ c.lastText = some text := by
  match c.take r, c.taken_take r with
  | _, .failed hread => simp [text?_eq_none_iff.mpr (.inl hread)]
  | _, .empty hread => simp [text?_eq_none_iff.mpr (.inr hread)]
  | _, .known text htext hlast => simp [htext, hlast]
  | _, .copied text htext hlast => simp [htext, hlast]

lemma take_eq_changed_iff (c : CopyCounter) (r : Reading) (copy : Copy) :
    (c.take r).1 = .changed copy ↔
      ∃ text, r.text? = some text ∧ c.lastText ≠ some text ∧ copy = c.copyOf r text := by
  match c.take r, c.taken_take r with
  | _, .failed hread => simp [text?_eq_none_iff.mpr (.inl hread)]
  | _, .empty hread => simp [text?_eq_none_iff.mpr (.inr hread)]
  | _, .known text htext hlast => simp [htext, hlast]
  | _, .copied text htext hlast => simp [htext, hlast, eq_comm]

/-- What a counter holds of the readings that it was told of. -/
structure Remembers (threshold : ℕ) (past : List Reading) (c : CopyCounter) : Prop where
  count : c.count = copies past
  text : c.lastText = latest past
  sequence : c.lastSequence = past.getLast?.map Reading.after
  threshold : c.threshold = max threshold 1

variable {threshold : ℕ} {past : List Reading} {c : CopyCounter}

lemma Remembers.seen (h : Remembers threshold past c) {r : Reading}
    (hr : isCopy past r = false) : Remembers threshold (past ++ [r]) (c.seen r) where
  count := by simp [copies_concat, hr, CopyCounter.seen, h.count]
  text := by
    rw [latest_concat]
    cases htext : r.text? with
    | none => exact h.text
    | some text => exact h.text.trans ((isCopy_eq_false_iff.mp hr) text htext)
  sequence := by simp [CopyCounter.seen]
  threshold := h.threshold

lemma Remembers.counted (h : Remembers threshold past c) {r : Reading} {text : String}
    (htext : r.text? = some text) (hr : isCopy past r = true) :
    Remembers threshold (past ++ [r]) (c.counted r text) where
  count := by simp [copies_concat, hr, CopyCounter.counted, h.count]
  text := by simp [latest_concat, htext, CopyCounter.counted]
  sequence := by simp [CopyCounter.counted, CopyCounter.seen]
  threshold := h.threshold

/-- What a counter holds is kept up to date by every reading. -/
lemma Remembers.take (h : Remembers threshold past c) (r : Reading) :
    Remembers threshold (past ++ [r]) (c.take r).2 := by
  match c.take r, c.taken_take r with
  | _, .failed hread =>
    apply h.seen
    rw [isCopy_eq_false_iff, text?_eq_none_iff.mpr (.inl hread)]
    simp
  | _, .empty hread =>
    apply h.seen
    rw [isCopy_eq_false_iff, text?_eq_none_iff.mpr (.inr hread)]
    simp
  | _, .known text htext hlast =>
    apply h.seen
    rw [isCopy_eq_false_iff, htext, ← h.text]
    rintro _ ⟨⟩
    exact hlast
  | _, .copied text htext hlast =>
    apply h.counted htext
    rw [isCopy_iff, ← h.text]
    exact ⟨text, htext, hlast⟩

/-- What a counter holds after a row of readings. -/
lemma remembers_observed (threshold : ℕ) (run : List Reading) :
    Remembers threshold run (observed threshold run) := by
  induction run using List.reverseRecOn with
  | nil => exact ⟨rfl, rfl, rfl, by simp [observed, new]⟩
  | append_singleton past r ih =>
    rw [observed_concat]
    exact ih.take r

lemma Remembers.resetDue_copyOf_iff (h : Remembers threshold past c) {r : Reading} {text : String} :
    (c.copyOf r text).resetDue = true ↔ max threshold 1 ∣ (c.copyOf r text).number := by
  simp [copyOf, h.threshold, Nat.dvd_iff_mod_eq_zero]

lemma Remembers.signalMissing_copyOf_iff (h : Remembers threshold past c) {r : Reading}
    {text : String} :
    (c.copyOf r text).signalMissing = true ↔
      (∃ seen, latest past = some seen) ∧ r.after ≠ 0 ∧
        ∃ last ∈ past.getLast?, last.after = r.before ∧ last.after = r.after := by
  simp only [copyOf, CopyCounter.signalMissing, h.text, h.sequence, Bool.and_eq_true, bne_iff_ne,
    beq_iff_eq, Option.map_eq_some_iff, Option.isSome_iff_exists]
  constructor
  · rintro ⟨⟨⟨hseen, hne⟩, last, hlast, hbefore⟩, last', hlast', hafter⟩
    obtain rfl := Option.some.inj (hlast.symm.trans hlast')
    exact ⟨hseen, hne, last, hlast, hbefore, hafter⟩
  · rintro ⟨hseen, hne, last, hlast, hbefore, hafter⟩
    exact ⟨⟨⟨hseen, hne⟩, last, hlast, hbefore⟩, last, hlast, hafter⟩

/-- What stands in the report of a copy, in terms of the readings before it. -/
lemma Remembers.eq_copyOf_iff (h : Remembers threshold past c) {r : Reading} {text : String}
    (htext : r.text? = some text) (hne : latest past ≠ some text) (copy : Copy) :
    copy = c.copyOf r text ↔
      copy.text = text ∧ copy.number = copies (past ++ [r]) ∧ copy.sequence = r.after ∧
        (copy.resetDue = true ↔ max threshold 1 ∣ copy.number) ∧
        (copy.signalMissing = true ↔
          (∃ seen, latest past = some seen) ∧ r.after ≠ 0 ∧
            ∃ last ∈ past.getLast?, last.after = r.before ∧ last.after = r.after) := by
  have hcopy : isCopy past r = true := isCopy_iff.mpr ⟨text, htext, hne⟩
  have hnumber : (c.copyOf r text).number = copies (past ++ [r]) := by
    simp [copyOf, copies_concat, hcopy, h.count]
  constructor
  · rintro rfl
    exact ⟨rfl, hnumber, rfl, h.resetDue_copyOf_iff, h.signalMissing_copyOf_iff⟩
  · rintro ⟨hsame, hnum, hseq, hdue, hmissing⟩
    have hdue' : copy.resetDue = (c.copyOf r text).resetDue := by
      rw [Bool.eq_iff_iff, hdue, h.resetDue_copyOf_iff, hnum, hnumber]
    have hmissing' : copy.signalMissing = (c.copyOf r text).signalMissing := by
      rw [Bool.eq_iff_iff, hmissing, h.signalMissing_copyOf_iff]
    obtain ⟨number, resetDue, signalMissing, sequence, text'⟩ := copy
    rw [copyOf, Copy.mk.injEq]
    exact ⟨hnum.trans hnumber.symm, hdue', hmissing', hseq, hsame⟩

/-- What is reported on a reading, whatever was read before it. Of the readings with a text, those
that find the latest one again are unchanged and all others are copies. The report of a copy tells
its place among all copies so far, and a signal is missing where the number is the one of the
previous reading, before and after. The count of the copies is always at hand. -/
theorem take_observed (threshold : ℕ) (past : List Reading) (r : Reading) :
    let c := observed threshold past
    let outcome := (c.take r).1
    (outcome = .inaccessible ↔ r.read = none) ∧
      (outcome = .noText ↔ r.read = some "") ∧
      (outcome = .unchanged ↔ ∃ text, r.text? = some text ∧ latest past = some text) ∧
      (∀ copy, outcome = .changed copy ↔
        r.text? = some copy.text ∧ latest past ≠ some copy.text ∧
          copy.number = copies (past ++ [r]) ∧ copy.sequence = r.after ∧
          (copy.resetDue = true ↔ max threshold 1 ∣ copy.number) ∧
          (copy.signalMissing = true ↔
            (∃ seen, latest past = some seen) ∧ r.after ≠ 0 ∧
              ∃ last ∈ past.getLast?, last.after = r.before ∧ last.after = r.after)) ∧
      c.count = copies past ∧
      (r.text? = none → (observed threshold (past ++ [r])).count = c.count) := by
  intro c outcome
  have h : Remembers threshold past c := remembers_observed threshold past
  refine ⟨c.take_eq_inaccessible_iff r, c.take_eq_noText_iff r, ?_, ?_, h.count, ?_⟩
  · rw [← h.text]
    exact c.take_eq_unchanged_iff r
  · intro copy
    rw [c.take_eq_changed_iff r copy, h.text]
    constructor
    · rintro ⟨text, htext, hne, hcopy⟩
      obtain ⟨rfl, hrest⟩ := (h.eq_copyOf_iff htext hne copy).mp hcopy
      exact ⟨htext, hne, hrest⟩
    · rintro ⟨htext, hne, hrest⟩
      exact ⟨copy.text, htext, hne, (h.eq_copyOf_iff htext hne copy).mpr ⟨rfl, hrest⟩⟩
  · intro htext
    have hcopy : isCopy past r = false := isCopy_eq_false_iff.mpr (by simp [htext])
    rw [(remembers_observed threshold (past ++ [r])).count, copies_concat, hcopy, h.count]
    simp

end CopyCounter

/-- Going back to an earlier text counts again; finding the same text again does not. -/
example : Reading.copies [⟨some "a", 1, 1⟩, ⟨none, 1, 1⟩, ⟨some "a", 1, 1⟩, ⟨some "b", 2, 2⟩,
    ⟨some "", 2, 2⟩, ⟨some "a", 3, 3⟩] = 3 := by
  decide

end ClipboardWatchdog
