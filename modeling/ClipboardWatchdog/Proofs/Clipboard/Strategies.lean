import ClipboardWatchdog.Proofs.Clipboard.Classifying
import ClipboardWatchdog.Proofs.Clipboard.Counting
import Mathlib.Data.List.Forall2
import Mathlib.Data.Set.Function

/-!
# Two ways to follow a clipboard

Polling counts copies and keeps the last text; following notifications classifies changes and keeps
a fingerprint. Fed the same row of sightings, the two tell the same story (`outcomes_match_kinds`).
What couples them is that the tracker keeps the fingerprint of the text that the counter keeps, and
that both keep the same number. A failed reading moves that number in both and nothing else.
-/

namespace ClipboardWatchdog

namespace Sighting

/-- The reading of the clipboard that a sighting is. -/
def reading (s : Sighting) : Reading := ⟨s.snapshot.text, s.before, s.after⟩

/-- The texts that some sightings could read. -/
def texts (run : List Sighting) : List String := run.filterMap (·.snapshot.text)

/-- What makes a row of sightings fit for both ways: the platform numbers its changes, the first
reading succeeds, none finds an empty text, and different texts have different fingerprints. Later
readings may fail. -/
structure Comparable (run : List Sighting) : Prop where
  numbered : ∀ s ∈ run, s.after ≠ 0
  readable : ∀ s ∈ run.head?, s.IsReadable
  nonempty : "" ∉ texts run
  distinct : Set.InjOn fingerprint {text | text ∈ texts run}

variable {run : List Sighting} {s : Sighting} {text : String}

lemma mem_texts_of_mem (hs : s ∈ run) (htext : s.snapshot.text = some text) : text ∈ texts run :=
  List.mem_filterMap.mpr ⟨s, hs, htext⟩

lemma print_eq_of_text (htext : s.snapshot.text = some text) (hne : text ≠ "") :
    s.snapshot.print = some (fingerprint text) := by
  simp [Snapshot.print, Snapshot.fingerprintOf, htext, hne]

/-- A sighting with a text is a reading of that text. -/
lemma text?_reading (htext : s.snapshot.text = some text) (hne : text ≠ "") :
    s.reading.text? = some text :=
  Reading.text?_eq_some_iff.mpr ⟨htext, hne⟩

end Sighting

namespace CopyCounter

/-- What the counter reports for each reading of a row. -/
def outcomes (c : CopyCounter) : List Reading → List PollOutcome
  | [] => []
  | r :: run => (c.take r).1 :: (c.take r).2.outcomes run

/-- Any text but the last is counted. -/
lemma take_of_new {c : CopyCounter} {r : Reading} {text : String} (htext : r.text? = some text)
    (hlast : c.lastText ≠ some text) :
    c.take r = (.changed (c.copyOf r text), c.counted r text) := by
  match c.take r, c.taken_take r with
  | _, .failed hread => simp [Reading.text?_eq_none_iff.mpr (.inl hread)] at htext
  | _, .empty hread => simp [Reading.text?_eq_none_iff.mpr (.inr hread)] at htext
  | _, .known text' htext' hlast' =>
    exact absurd (hlast'.trans (htext'.symm.trans htext)) hlast
  | _, .copied text' htext' _ =>
    obtain rfl := Option.some.inj (htext.symm.trans htext')
    rfl

end CopyCounter

/-- The kinds of the sightings of a row. -/
def ChangeTracker.kinds (t : ChangeTracker) : List Sighting → List ChangeKind
  | [] => []
  | s :: run => (t.take s).1 :: (t.take s).2.kinds run

/-- An outcome of polling and the kind of a notification that tell the same of a reading, once a
copy has been counted. -/
inductive SameNews : PollOutcome → ChangeKind → Prop
  | failed : SameNews .inaccessible .unreadable
  | missed (copy : Copy) (h : copy.signalMissing = true) : SameNews (.changed copy) .signalMissing
  | signalled (copy : Copy) (h : copy.signalMissing = false) : SameNews (.changed copy) .textChanged
  | otherContent : SameNews .unchanged .nonTextChange
  | nothing : SameNews .unchanged .duplicate

/-- Both follow the same clipboard, of which some texts can be seen: the tracker keeps the
fingerprint of the counter's text, and they keep the number of the same sighting. -/
structure InStep (texts : List String) (c : CopyCounter) (t : ChangeTracker) (text : String)
    (last : Sighting) : Prop where
  known : text ∈ texts
  lastText : c.lastText = some text
  lastPrint : t.lastPrint = some (fingerprint text)
  counter : c.lastSequence = some last.after
  tracker : t.lastSequence = some last.after

namespace InStep

open Sighting

variable {texts : List String} {c : CopyCounter} {t : ChangeTracker} {text : String}
  {last s : Sighting}

/-- The counter misses a signal exactly where the tracker sees the number stand still. -/
lemma signalMissing_iff (h : InStep texts c t text last) (hs : s.after ≠ 0) :
    c.signalMissing s.reading.before s.reading.after = true ↔ ¬last.MovesTo s := by
  simp [CopyCounter.signalMissing, h.lastText, h.counter, reading, MovesTo, hs]

/-- A failed reading moves the number of both. -/
lemma of_failed (h : InStep texts c t text last) (hread : s.snapshot.text = none) :
    SameNews .inaccessible (t.take s).1 ∧ InStep texts (c.seen s.reading) (t.take s).2 text s := by
  rw [t.take_of_not_isReadable (by simp [IsReadable, hread])]
  exact ⟨.failed, h.known, h.lastText, h.lastPrint, rfl, rfl⟩

/-- Finding the same text again leaves everything but the number. -/
lemma of_same (h : InStep texts c t text last) (hread : s.snapshot.text = some text)
    (hne : text ≠ "") :
    SameNews .unchanged (t.take s).1 ∧ InStep texts (c.seen s.reading) (t.take s).2 text s := by
  have hs : s.IsReadable := by simp [IsReadable, hread]
  have hprint : s.snapshot.print = t.lastPrint := by
    rw [h.lastPrint, print_eq_of_text hread hne]
  obtain ⟨-, -, hother, -, -, hnothing⟩ :=
    ChangeKind.between_iff (last.MovesTo s) t.lastPrint s.snapshot.print
  rw [t.take_snd_of_isReadable hs, ChangeTracker.take_fst_of_last hs h.tracker]
  refine ⟨?_, h.known, h.lastText, hprint.trans h.lastPrint, rfl, rfl⟩
  by_cases hmoves : last.MovesTo s
  · rw [hother.mpr ⟨hmoves, .inr hprint⟩]
    exact .otherContent
  · rw [hnothing.mpr ⟨hmoves, hprint⟩]
    exact .nothing

/-- A new text is a copy to the one, and a change of the text to the other: its fingerprint is
new. -/
lemma of_new (h : InStep texts c t text last) {new : String} (hread : s.snapshot.text = some new)
    (hne : new ≠ "") (hmem : new ∈ texts) (hs : s.after ≠ 0) (hnew : new ≠ text)
    (hdistinct : Set.InjOn fingerprint {text | text ∈ texts}) :
    SameNews (.changed (c.copyOf s.reading new)) (t.take s).1 ∧
      InStep texts (c.counted s.reading new) (t.take s).2 new s := by
  have hreadable : s.IsReadable := by simp [IsReadable, hread]
  have hcurrent : s.snapshot.print = some (fingerprint new) := print_eq_of_text hread hne
  have hprint : s.snapshot.print ≠ t.lastPrint := by
    rw [hcurrent, h.lastPrint]
    intro heq
    exact hnew (hdistinct hmem h.known (Option.some.inj heq))
  have hmissed := h.signalMissing_iff hs
  obtain ⟨-, -, -, hchanged, hmissing, -⟩ :=
    ChangeKind.between_iff (last.MovesTo s) t.lastPrint s.snapshot.print
  rw [t.take_snd_of_isReadable hreadable, ChangeTracker.take_fst_of_last hreadable h.tracker]
  refine ⟨?_, hmem, rfl, hcurrent, rfl, rfl⟩
  by_cases hmoves : last.MovesTo s
  · rw [hchanged.mpr ⟨hmoves, by simp [hcurrent], hprint⟩]
    exact .signalled _ (Bool.eq_false_iff.mpr fun hflag => hmissed.mp hflag hmoves)
  · rw [hmissing.mpr ⟨hmoves, hprint⟩]
    exact .missed _ (hmissed.mpr hmoves)

/-- One more sighting, of whatever sort, leaves the two in step. -/
lemma take (h : InStep texts c t text last) (hs : s.after ≠ 0) (hempty : "" ∉ texts)
    (hmem : ∀ text, s.snapshot.text = some text → text ∈ texts)
    (hdistinct : Set.InjOn fingerprint {text | text ∈ texts}) :
    ∃ text', SameNews (c.take s.reading).1 (t.take s).1 ∧
      InStep texts (c.take s.reading).2 (t.take s).2 text' s := by
  match c.take s.reading, c.taken_take s.reading with
  | _, .failed hread => exact ⟨text, h.of_failed hread⟩
  | _, .empty hread => exact absurd (hmem "" hread) hempty
  | _, .known same htext hlast =>
    obtain rfl := Option.some.inj (h.lastText.symm.trans hlast)
    obtain ⟨hread, hne⟩ := Reading.text?_eq_some_iff.mp htext
    exact ⟨text, h.of_same hread hne⟩
  | _, .copied new htext hlast =>
    obtain ⟨hread, hne⟩ := Reading.text?_eq_some_iff.mp htext
    have hnew : new ≠ text := by
      rintro rfl
      exact hlast h.lastText
    exact ⟨new, h.of_new hread hne (hmem new hread) hs hnew hdistinct⟩

/-- Once in step, the two tell the same of all that follows. -/
lemma sameNews_of_run (hempty : "" ∉ texts)
    (hdistinct : Set.InjOn fingerprint {text | text ∈ texts}) (run : List Sighting)
    (hnumbered : ∀ s ∈ run, s.after ≠ 0)
    (hmem : ∀ s ∈ run, ∀ text, s.snapshot.text = some text → text ∈ texts)
    (h : InStep texts c t text last) :
    List.Forall₂ SameNews (c.outcomes (run.map reading)) (t.kinds run) := by
  induction run generalizing c t text last with
  | nil => exact .nil
  | cons s run ih =>
    obtain ⟨text', hnews, hstep⟩ :=
      h.take (hnumbered s List.mem_cons_self) hempty (hmem s List.mem_cons_self) hdistinct
    refine .cons hnews (ih ?_ ?_ hstep)
    · intro s' hs'
      exact hnumbered s' (List.mem_cons_of_mem s hs')
    · intro s' hs'
      exact hmem s' (List.mem_cons_of_mem s hs')

end InStep

namespace Sighting

/-- The first sighting is a copy to the counter and a baseline to the tracker, and sets them in
step. -/
lemma inStep_first (threshold : ℕ) {first : Sighting} {text : String} {texts : List String}
    (hread : first.snapshot.text = some text) (hne : text ≠ "") (hmem : text ∈ texts) :
    ∃ copy, (CopyCounter.new threshold).take first.reading =
        (.changed copy, (CopyCounter.new threshold).counted first.reading text) ∧
      (ChangeTracker.new.take first).1 = .baseline ∧
      InStep texts ((CopyCounter.new threshold).counted first.reading text)
        (ChangeTracker.new.take first).2 text first := by
  have hs : first.IsReadable := by simp [IsReadable, hread]
  refine ⟨_, CopyCounter.take_of_new (text?_reading hread hne) (Option.some_ne_none text).symm,
    ChangeTracker.take_fst_of_first hs rfl, hmem, rfl, ?_, rfl, ?_⟩
  · rw [ChangeTracker.take_snd_of_isReadable _ hs]
    exact print_eq_of_text hread hne
  · rw [ChangeTracker.take_snd_of_isReadable _ hs]

/-- Fed the same sightings, the two ways agree step by step: the first sighting is the first copy
and the baseline, and from then on every outcome and the kind beside it tell the same. -/
theorem outcomes_match_kinds (threshold : ℕ) {first : Sighting} {rest : List Sighting}
    (h : Comparable (first :: rest)) :
    ∃ copy outcomes kinds,
      (CopyCounter.new threshold).outcomes ((first :: rest).map reading) =
          .changed copy :: outcomes ∧
        ChangeTracker.new.kinds (first :: rest) = .baseline :: kinds ∧
        List.Forall₂ SameNews outcomes kinds := by
  obtain ⟨text, hread⟩ := Option.isSome_iff_exists.mp (h.readable first rfl)
  have hmem : text ∈ texts (first :: rest) := mem_texts_of_mem List.mem_cons_self hread
  have hne : text ≠ "" := fun heq => h.nonempty (heq ▸ hmem)
  obtain ⟨copy, hcopy, hbaseline, hstep⟩ := inStep_first threshold hread hne hmem
  refine ⟨copy, _, _, ?_, ?_, hstep.sameNews_of_run h.nonempty h.distinct rest ?_ ?_⟩
  · rw [List.map_cons, CopyCounter.outcomes, hcopy]
  · rw [ChangeTracker.kinds, hbaseline]
  · intro s hs
    exact h.numbered s (List.mem_cons_of_mem first hs)
  · intro s hs text' htext
    exact mem_texts_of_mem (List.mem_cons_of_mem first hs) htext

/-- After the text `a`, a failed reading, the same text under a new number, the text `b` that was
not signalled, and `a` again. -/
def aToB : List Sighting :=
  [⟨⟨2, none, [], default⟩, 1⟩, ⟨⟨3, some "a", [], default⟩, 3⟩, ⟨⟨3, some "b", [], default⟩, 3⟩,
    ⟨⟨4, some "a", [], default⟩, 4⟩]

lemma comparable_aToB : Comparable (⟨⟨1, some "a", [], default⟩, 1⟩ :: aToB) where
  numbered := by decide
  readable := by decide
  nonempty := by decide
  distinct := by
    have htexts : ∀ x ∈ texts (⟨⟨1, some "a", [], default⟩, 1⟩ :: aToB), x = "a" ∨ x = "b" := by
      simp [texts, aToB]
    have hdistinct : fingerprint "a" ≠ fingerprint "b" := by decide +kernel
    intro x hx y hy heq
    obtain rfl | rfl := htexts x hx <;> obtain rfl | rfl := htexts y hy
    · rfl
    · exact absurd heq hdistinct
    · exact absurd heq.symm hdistinct
    · rfl

theorem outcomes_match_kinds_aToB :
    let first : Sighting := ⟨⟨1, some "a", [], default⟩, 1⟩
    Comparable (first :: aToB) ∧ ∃ copy outcomes kinds,
      (CopyCounter.new 7).outcomes ((first :: aToB).map reading) = .changed copy :: outcomes ∧
        ChangeTracker.new.kinds (first :: aToB) = .baseline :: kinds ∧
        List.Forall₂ SameNews outcomes kinds :=
  ⟨comparable_aToB, outcomes_match_kinds 7 comparable_aToB⟩

end Sighting

end ClipboardWatchdog
