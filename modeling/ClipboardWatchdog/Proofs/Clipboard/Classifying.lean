import ClipboardWatchdog.Clipboard.ChangeTracker
import Mathlib.Data.List.Induction
import Mathlib.Tactic.Common

/-!
# How notifications are classified

A tracker keeps a sequence number and a fingerprint, and not of the same notification: a failed
reading moves the number alone, and an empty text takes the fingerprint away. Both are a function of
what the tracker was shown since it last started afresh (`memory_after`), and so is the kind of the
next notification (`kind_after`).
-/

namespace ClipboardWatchdog

/-- What a tracker is shown: a snapshot, whose sequence number was sampled after the text was read,
and the sequence number before that. -/
structure Sighting where
  snapshot : Snapshot
  before : ℕ
  deriving DecidableEq, Repr

namespace Sighting

/-- The sequence number after the text was read. -/
def after (s : Sighting) : ℕ := s.snapshot.sequence

/-- The text could be read. -/
def IsReadable (s : Sighting) : Prop := s.snapshot.text.isSome = true

instance (s : Sighting) : Decidable s.IsReadable := inferInstanceAs (Decidable (_ = _))

/-- The sequence number has moved from the end of the one to the end of the other. -/
def MovesTo (last s : Sighting) : Prop := last.after ≠ s.before ∨ last.after ≠ s.after

instance (last s : Sighting) : Decidable (last.MovesTo s) := inferInstanceAs (Decidable (_ ∨ _))

/-- The fingerprint of the last text that could be read. There is none if that text was empty. -/
def latestPrint (shown : List Sighting) : Option String :=
  (shown.filter IsReadable).getLast?.bind (·.snapshot.print)

lemma latestPrint_concat (shown : List Sighting) (s : Sighting) :
    latestPrint (shown ++ [s]) = if s.IsReadable then s.snapshot.print else latestPrint shown := by
  unfold latestPrint
  rw [List.filter_append]
  split
  · next h => simp [h]
  · next h => simp [h]

end Sighting

/-- What is asked of a tracker: to take in a sighting, or to start afresh. -/
inductive TrackerCall
  | track (s : Sighting)
  | reset

namespace TrackerCall

/-- What was shown since the tracker last started afresh. -/
def shown (calls : List TrackerCall) : List Sighting :=
  calls.foldl (fun seen call =>
    match call with
    | track s => seen ++ [s]
    | reset => []) []

lemma shown_concat_track (calls : List TrackerCall) (s : Sighting) :
    shown (calls ++ [track s]) = shown calls ++ [s] := by
  simp [shown]

lemma shown_concat_reset (calls : List TrackerCall) : shown (calls ++ [reset]) = [] := by
  simp [shown]

end TrackerCall

namespace ChangeKind

/-- What comparing two numbers and two fingerprints tells. -/
lemma between_iff (moved : Prop) [Decidable moved] (previous current : Option String) :
    let kind := between (decide moved) previous current
    kind ≠ unreadable ∧ kind ≠ baseline ∧
      (kind = nonTextChange ↔ moved ∧ (current = none ∨ current = previous)) ∧
      (kind = textChanged ↔ moved ∧ current ≠ none ∧ current ≠ previous) ∧
      (kind = signalMissing ↔ ¬moved ∧ current ≠ previous) ∧
      (kind = duplicate ↔ ¬moved ∧ current = previous) := by
  unfold between
  by_cases hsame : current = previous
  · subst hsame
    by_cases hmoved : moved <;> cases current <;> simp [hmoved]
  · have hne : (previous != current) = true := by simp [Ne.symm hsame]
    rw [hne]
    by_cases hmoved : moved <;> cases current <;> simp [hmoved, hsame]

end ChangeKind

namespace ChangeTracker

open Sighting TrackerCall

/-- Takes in a sighting. -/
def take (t : ChangeTracker) (s : Sighting) : ChangeKind × ChangeTracker :=
  t.track s.snapshot s.before

/-- Does what is asked. -/
def serve (t : ChangeTracker) : TrackerCall → ChangeTracker
  | .track s => (t.take s).2
  | .reset => .new

/-- The tracker after a row of calls. -/
def after (calls : List TrackerCall) : ChangeTracker := calls.foldl serve .new

lemma after_concat (calls : List TrackerCall) (call : TrackerCall) :
    after (calls ++ [call]) = (after calls).serve call := by
  simp [after]

/-- A reading that failed moves the number alone. -/
lemma take_of_not_isReadable (t : ChangeTracker) {s : Sighting} (h : ¬s.IsReadable) :
    t.take s = (.unreadable, { t with lastSequence := some s.after }) := by
  have htext : s.snapshot.text = none := by simpa [IsReadable] using h
  simp [take, track, htext, Sighting.after]

/-- A text that was read brings its fingerprint, or takes away the one before if it is empty. -/
lemma take_snd_of_isReadable (t : ChangeTracker) {s : Sighting} (h : s.IsReadable) :
    (t.take s).2 = { lastSequence := some s.after, lastPrint := s.snapshot.print } := by
  obtain ⟨text, htext⟩ := Option.isSome_iff_exists.mp h
  simp [take, track, htext, Sighting.after]

variable {t : ChangeTracker} {s last : Sighting}

lemma take_fst_of_first (h : s.IsReadable) (hnone : t.lastSequence = none) :
    (t.take s).1 = .baseline := by
  obtain ⟨text, htext⟩ := Option.isSome_iff_exists.mp h
  simp [take, track, htext, hnone]

lemma take_fst_of_last (h : s.IsReadable) (hlast : t.lastSequence = some last.after) :
    (t.take s).1 = .between (decide (last.MovesTo s)) t.lastPrint s.snapshot.print := by
  obtain ⟨text, htext⟩ := Option.isSome_iff_exists.mp h
  have hmoved : (last.after != s.before || last.after != s.snapshot.sequence) =
      decide (last.MovesTo s) := by
    rw [Bool.eq_iff_iff, decide_eq_true_iff]
    simp [MovesTo, Sighting.after]
  simp only [take, track, htext, hlast, hmoved]

/-- Where the number stayed the same while the text was read, the two memories are compared with one
number and one fingerprint. -/
lemma track_fst_of_isReadable (t : ChangeTracker) (h : s.IsReadable) :
    (t.track s.snapshot s.after).1 =
      .classify t.lastSequence t.lastPrint s.after s.snapshot.print := by
  obtain ⟨text, htext⟩ := Option.isSome_iff_exists.mp h
  simp only [track, htext, Sighting.after]
  cases t.lastSequence <;> simp [ChangeKind.classify]

/-- What a tracker keeps: the number of the last sighting, and the fingerprint of the last one that
could be read. -/
lemma memory_after (calls : List TrackerCall) :
    (after calls).lastSequence = (shown calls).getLast?.map Sighting.after ∧
      (after calls).lastPrint = latestPrint (shown calls) := by
  induction calls using List.reverseRecOn with
  | nil => exact ⟨rfl, rfl⟩
  | append_singleton calls call ih =>
    obtain ⟨-, hprint⟩ := ih
    rw [after_concat]
    cases call with
    | reset =>
      rw [shown_concat_reset]
      exact ⟨rfl, rfl⟩
    | track s =>
      rw [shown_concat_track, latestPrint_concat, serve]
      by_cases hs : s.IsReadable
      · rw [take_snd_of_isReadable _ hs]
        simp [hs]
      · rw [take_of_not_isReadable _ hs]
        simp [hs, hprint]

/-- The kind of a notification, whatever happened before it. One that could not be read is
unreadable, and any other that is the first since the tracker started afresh is a baseline. Every
other one is compared with the sighting before it, readable or not, as to the number, and with the
last that was readable as to the fingerprint. Where the number is the same before and after the
reading, that is what comparing the two memories with one number and one fingerprint gives. -/
theorem kind_after (calls : List TrackerCall) (s : Sighting) :
    let seen := shown calls
    let previous := latestPrint seen
    let print := s.snapshot.print
    let kind := ((after calls).track s.snapshot s.before).1
    (kind = .unreadable ↔ s.snapshot.text = none) ∧
      (kind = .baseline ↔ s.IsReadable ∧ seen = []) ∧
      (kind = .nonTextChange ↔ s.IsReadable ∧ ∃ last ∈ seen.getLast?,
        last.MovesTo s ∧ (print = none ∨ print = previous)) ∧
      (kind = .textChanged ↔ s.IsReadable ∧ ∃ last ∈ seen.getLast?,
        last.MovesTo s ∧ print ≠ none ∧ print ≠ previous) ∧
      (kind = .signalMissing ↔ s.IsReadable ∧ ∃ last ∈ seen.getLast?,
        ¬last.MovesTo s ∧ print ≠ previous) ∧
      (kind = .duplicate ↔ s.IsReadable ∧ ∃ last ∈ seen.getLast?,
        ¬last.MovesTo s ∧ print = previous) ∧
      ((after calls).track s.snapshot s.after).1 =
        if s.IsReadable then .classify (seen.getLast?.map Sighting.after) previous s.after print
        else .unreadable := by
  intro seen previous print kind
  obtain ⟨hsequence, hprint⟩ := memory_after calls
  by_cases hs : s.IsReadable
  · have htext : s.snapshot.text ≠ none := Option.isSome_iff_ne_none.mp hs
    have hsame := track_fst_of_isReadable (after calls) hs
    rw [hsequence, hprint] at hsame
    cases hlast : (shown calls).getLast? with
    | none =>
      have hnil : seen = [] := List.getLast?_eq_none_iff.mp hlast
      have hkind : kind = .baseline := take_fst_of_first hs (by rw [hsequence, hlast]; rfl)
      simp [hkind, hsame, hs, htext, hnil, previous, seen, print]
    | some last =>
      have hne : seen ≠ [] := by
        rintro hnil
        simp [show shown calls = [] from hnil] at hlast
      have hkind : kind = .between (decide (last.MovesTo s)) previous print :=
        (take_fst_of_last hs (by rw [hsequence, hlast]; rfl)).trans (by rw [hprint])
      obtain ⟨hunreadable, hbaseline, hnonText, htextChanged, hmissing, hduplicate⟩ :=
        ChangeKind.between_iff (last.MovesTo s) previous print
      rw [← hkind] at hunreadable hbaseline hnonText htextChanged hmissing hduplicate
      simp only [hunreadable, hbaseline, hnonText, htextChanged, hmissing, hduplicate, hsame, hs,
        htext, hne, seen, hlast, Option.mem_some_iff, exists_eq_left', true_and, and_false, if_true]
      rfl
  · have htext : s.snapshot.text = none := by simpa [IsReadable] using hs
    have hkind : kind = .unreadable := congrArg Prod.fst (take_of_not_isReadable _ hs)
    have hsame : ((after calls).track s.snapshot s.after).1 = .unreadable :=
      congrArg Prod.fst (take_of_not_isReadable _ (s := { s with before := s.after }) hs)
    simp [hkind, hsame, hs, htext]

end ChangeTracker

end ClipboardWatchdog
