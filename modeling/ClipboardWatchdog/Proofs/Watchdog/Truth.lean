import ClipboardWatchdog.Proofs.Text.Digits
import ClipboardWatchdog.Proofs.Watchdog.Handing

/-!
# Whether what the receiver is handed is true

The text of a status can be read back: it is the text of no other two numbers. What the receiver is
handed is true if the numbers in it are those that were counted by then. `truth_served` says of each
thing that it is handed in a run whether it is. The message about a reset never is, because the
reset is counted before the message and shown after it. All else is true as long as the clock can be
read and the receiver takes the messages.
-/

namespace ClipboardWatchdog

open Text

variable {σ : Type}

/-! ### The numbers in a text -/

/-- Both numbers can be read off the text of a status. -/
lemma Status.counters_of_text_eq {st st' : Status} (h : st.text = st'.text) :
    st.copies = st'.copies ∧ st.resets = st'.resets := by
  have hchars := congrArg String.toList h
  simp only [Status.text, decimal, String.toList_append, String.toList_ofList,
    List.append_assoc] at hchars
  obtain ⟨hcopies, hrest⟩ := digits_append_inj (by simp +decide) (by simp +decide)
    (List.append_cancel_left hchars)
  exact ⟨hcopies, (digits_append_inj (by simp +decide) (by simp +decide)
    (List.append_cancel_left hrest)).1⟩

namespace Delivery

/-- The receiver was handed a status with the copies and the resets that it could read itself. -/
def IsTrue (d : Delivery) : Prop :=
  ∃ status : Status, d.text = status.text ∧ status.copies = d.copies ∧ status.resets = d.resets

lemma Shows.isTrue_iff {d : Delivery} {t : Tally} (h : d.Shows t) :
    d.IsTrue ↔ t.copies = t.count ∧ t.resets = t.runs := by
  obtain ⟨st, htext, hcopies, hresets⟩ := h.text
  rw [← h.copies, ← h.resets, ← hcopies, ← hresets]
  constructor
  · rintro ⟨st', htext', hcopies', hresets'⟩
    obtain ⟨heqCopies, heqResets⟩ := Status.counters_of_text_eq (htext.symm.trans htext')
    exact ⟨heqCopies.trans hcopies', heqResets.trans hresets'⟩
  · rintro ⟨hc, hr⟩
    exact ⟨st, htext, hc, hr⟩

end Delivery

/-! ### Numbers that are hidden -/

namespace Deed

/-- A copy is counted and shown. -/
def ShowsCopy : Deed → Prop
  | copied _ => True
  | _ => False

/-- A copy is counted and not shown. -/
def HidesCopy : Deed → Prop
  | missed => True
  | _ => False

/-- A reset is counted and shown. -/
def ShowsReset : Deed → Prop
  | told _ _ => True
  | _ => False

/-- A reset is counted and not shown. -/
def HidesReset : Deed → Prop
  | cut _ => True
  | untold => True
  | _ => False

end Deed

/-- A deed of the row has hidden a number, which no deed has shown since. -/
def LeavesHidden (hides shows : Deed → Prop) (row : List Deed) : Prop :=
  ∃ front deed back, row = front ++ deed :: back ∧ hides deed ∧ ∀ later ∈ back, ¬shows later

lemma leavesHidden_concat_iff {hides shows : Deed → Prop} {row : List Deed} {deed : Deed} :
    LeavesHidden hides shows (row ++ [deed]) ↔
      hides deed ∨ LeavesHidden hides shows row ∧ ¬shows deed := by
  unfold LeavesHidden
  rw [exists_split_concat_iff]
  constructor
  · rintro (⟨hhides, -⟩ | ⟨front, hidden, back, rfl, hhides, hlater⟩)
    · exact .inl hhides
    · exact .inr ⟨⟨front, hidden, back, rfl, hhides, fun d hd => hlater d (by simp [hd])⟩,
        hlater deed (by simp)⟩
  · rintro (hhides | ⟨⟨front, hidden, back, rfl, hhides, hlater⟩, hshows⟩)
    · exact .inl ⟨hhides, by simp⟩
    · refine .inr ⟨front, hidden, back, rfl, hhides, fun d hd => ?_⟩
      rcases List.mem_append.mp hd with hd | hd
      · exact hlater d hd
      · exact List.mem_singleton.mp hd ▸ hshows

/-- What a deed does to a number and to what is shown of it. -/
structure Deed.Affects (number shown : Tally → ℕ) (hides shows : Deed → Prop) (deed : Deed)
    (t : Tally) : Prop where
  ofShows : shows deed → ¬hides deed ∧ shown (deed.move t) = number (deed.move t)
  ofHides : hides deed → shown (deed.move t) = shown t ∧ number t < number (deed.move t)
  ofNeither : ¬shows deed → ¬hides deed →
    shown (deed.move t) = shown t ∧ number (deed.move t) = number t

/-- A number is shown as it is, unless it is left hidden. -/
lemma shown_ne_number_iff {number shown : Tally → ℕ} {hides shows : Deed → Prop}
    (hdeed : ∀ (deed : Deed) t, deed.Affects number shown hides shows t)
    (hzero : shown ⟨0, 0, 0, 0⟩ = number ⟨0, 0, 0, 0⟩) (row : List Deed) :
    shown (Tally.after row) ≤ number (Tally.after row) ∧
      (shown (Tally.after row) ≠ number (Tally.after row) ↔ LeavesHidden hides shows row) := by
  induction row using List.reverseRecOn with
  | nil => simp [Tally.after, LeavesHidden, hzero]
  | append_singleton row deed ih =>
    obtain ⟨hle, hiff⟩ := ih
    rw [Tally.after_concat, leavesHidden_concat_iff, ← hiff]
    have haffects := hdeed deed (Tally.after row)
    by_cases hshows : shows deed
    · obtain ⟨hhides, heq⟩ := haffects.ofShows hshows
      simp [hshows, hhides, heq]
    · by_cases hhides : hides deed
      · obtain ⟨heq, hlt⟩ := haffects.ofHides hhides
        rw [heq]
        refine ⟨Nat.le_trans hle (Nat.le_of_lt hlt), ?_⟩
        simp only [hhides, true_or, iff_true]
        exact Nat.ne_of_lt (Nat.lt_of_le_of_lt hle hlt)
      · obtain ⟨heq, heq'⟩ := haffects.ofNeither hshows hhides
        simp [heq, heq', hle, hshows, hhides]

/-- A copy was counted and not shown, and none was shown since. -/
abbrev CopyIsHidden (row : List Deed) : Prop := LeavesHidden Deed.HidesCopy Deed.ShowsCopy row

/-- A reset was counted and not shown, and none was shown since. -/
abbrev ResetIsHidden (row : List Deed) : Prop := LeavesHidden Deed.HidesReset Deed.ShowsReset row

namespace Tally

lemma affects_copies (deed : Deed) (t : Tally) :
    deed.Affects Tally.count Tally.copies Deed.HidesCopy Deed.ShowsCopy t := by
  cases deed <;> constructor <;>
    simp [Deed.ShowsCopy, Deed.HidesCopy, Deed.move, counted, ran, showCopies, showResets]

lemma affects_resets (deed : Deed) (t : Tally) :
    deed.Affects Tally.runs Tally.resets Deed.HidesReset Deed.ShowsReset t := by
  cases deed <;> constructor <;>
    simp [Deed.ShowsReset, Deed.HidesReset, Deed.move, counted, ran, showCopies, showResets]

lemma copies_after_eq_iff (row : List Deed) :
    (after row).copies = (after row).count ↔ ¬CopyIsHidden row :=
  (not_iff_comm.mp (shown_ne_number_iff affects_copies rfl row).2).symm

lemma resets_after_eq_iff (row : List Deed) :
    (after row).resets = (after row).runs ↔ ¬ResetIsHidden row :=
  (not_iff_comm.mp (shown_ne_number_iff affects_resets rfl row).2).symm

lemma resets_after_le (row : List Deed) : (after row).resets ≤ (after row).runs :=
  (shown_ne_number_iff affects_resets rfl row).1

lemma runs_after_eq_zero_iff (row : List Deed) :
    (after row).runs = 0 ↔ ∀ deed ∈ row, ¬deed.HidesReset ∧ ¬deed.ShowsReset := by
  induction row using List.reverseRecOn with
  | nil => simp [after]
  | append_singleton row deed ih =>
    have hdeed : (deed.move (after row)).runs = 0 ↔
        (after row).runs = 0 ∧ ¬deed.HidesReset ∧ ¬deed.ShowsReset := by
      cases deed <;>
        simp [Deed.move, Deed.HidesReset, Deed.ShowsReset, counted, ran, showCopies, showResets]
    rw [after_concat, hdeed, ih]
    simp [or_imp, forall_and, and_and_and_comm]

end Tally

/-! ### What is true of a deed -/

/-- Whether what a deed hands over after a row of deeds is true. -/
def Deed.IsTrueAfter (row : List Deed) : Deed → Prop
  | handed d => d.IsTrue ↔ ¬CopyIsHidden row ∧ ¬ResetIsHidden row
  | copied d => d.IsTrue ↔ ¬ResetIsHidden row
  | told message count => ¬message.IsTrue ∧ (count.IsTrue ↔ ¬CopyIsHidden row)
  | cut message => ¬message.IsTrue
  | missed => True
  | untold => True

section

variable {receive : Delivery → Option Fault} {unreadable : Prop} {row : List Deed}

lemma Deed.isTrueAfter_of_fits {deed : Deed}
    (h : deed.Fits receive unreadable (Tally.after row)) : deed.IsTrueAfter row := by
  have hmessage {message : Delivery} (hshows : message.Shows (Tally.after row).ran) :
      ¬message.IsTrue := by
    rw [hshows.isTrue_iff]
    exact fun ⟨_, hresets⟩ => absurd hresets (Nat.ne_of_lt (Nat.lt_succ_of_le
      (Tally.resets_after_le row)))
  cases deed with
  | handed d =>
    rw [IsTrueAfter, Delivery.Shows.isTrue_iff h, Tally.copies_after_eq_iff,
      Tally.resets_after_eq_iff]
  | copied d =>
    rw [IsTrueAfter, Delivery.Shows.isTrue_iff h, ← Tally.resets_after_eq_iff]
    exact and_iff_right rfl
  | told message count =>
    obtain ⟨hshows, -, hcount⟩ := h
    refine ⟨hmessage hshows, ?_⟩
    rw [hcount.isTrue_iff, ← Tally.copies_after_eq_iff]
    exact and_iff_left rfl
  | cut message => exact hmessage h.1
  | missed => trivial
  | untold => trivial

/-- With a clock that can be read, all that is handed over is true just if no reset has come to its
end. -/
lemma forall_isTrue_iff (hrow : Fitting receive unreadable row) (hread : ¬unreadable) :
    (∀ d ∈ row.flatMap Deed.deliveries, d.IsTrue) ↔ (Tally.after row).runs = 0 := by
  rw [Tally.runs_after_eq_zero_iff]
  constructor
  · intro hall deed hdeed
    obtain ⟨front, back, rfl⟩ := List.append_of_mem hdeed
    have hfits := hrow front deed back rfl
    have htrue := Deed.isTrueAfter_of_fits hfits
    have hall (d : Delivery) (hd : d ∈ deed.deliveries) : d.IsTrue :=
      hall d (List.mem_flatMap.mpr ⟨deed, hdeed, hd⟩)
    cases deed with
    | told message count => exact absurd (hall message (by simp [Deed.deliveries])) htrue.1
    | cut message => exact absurd (hall message (by simp [Deed.deliveries])) htrue
    | untold => exact absurd hfits hread
    | _ => exact ⟨id, id⟩
  · intro hnone d hd
    obtain ⟨deed, hdeed, hd'⟩ := List.mem_flatMap.mp hd
    obtain ⟨front, back, rfl⟩ := List.append_of_mem hdeed
    have htrue := Deed.isTrueAfter_of_fits (hrow front deed back rfl)
    have hcopy : ¬CopyIsHidden front := by
      rintro ⟨earlier, hidden, later, rfl, hhides, -⟩
      have hfits := hrow earlier hidden (later ++ deed :: back) (by simp)
      cases hidden with
      | missed => exact hread hfits
      | _ => exact hhides
    have hreset : ¬ResetIsHidden front := by
      rintro ⟨earlier, hidden, later, rfl, hhides, -⟩
      exact (hnone hidden (by simp)).1 hhides
    cases deed with
    | handed d' => exact List.mem_singleton.mp hd' ▸ htrue.mpr ⟨hcopy, hreset⟩
    | copied d' => exact List.mem_singleton.mp hd' ▸ htrue.mpr hreset
    | told message count => exact absurd trivial (hnone _ hdeed).2
    | cut message => exact absurd trivial (hnone _ hdeed).1
    | missed => cases hd'
    | untold => cases hd'

end

namespace Watchdog

variable {w : Watchdog σ} {receive : Delivery → Option Fault}

/-- All that the receiver was handed in a run is told by a row of deeds. A delivery is true unless
it is the message about a reset, or shows a number of which something was counted before and is
hidden. Something is hidden only if the clock could not be read or if the receiver broke down at the
message about a reset. If the clock could be read throughout, all deliveries are true just if no
reset has come to its end. -/
theorem truth_served (hw : w.receiver = some receive) (host : σ) (disk : Disk) (clock : Clock)
    (steps : List (Clock × Activity)) :
    let s := w.served (w.opening host disk clock) steps
    (∃ row, Fitting receive (∃ step ∈ steps, ∃ cause, step.1.read = .error cause) row ∧
      s.around.deliveries = row.flatMap Deed.deliveries ∧ s.tally = Tally.after row ∧
      ∀ front deed back, row = front ++ deed :: back → deed.IsTrueAfter front) ∧
    ((∀ step ∈ steps, ∃ now, step.1.read = .ok now) →
      ((∀ d ∈ s.around.deliveries, d.IsTrue) ↔ s.engine.runs = 0)) := by
  intro s
  obtain ⟨row, hrow, hdeliveries, htally⟩ := accounted_served hw host disk clock steps
  refine ⟨⟨row, hrow, hdeliveries, htally, fun front deed back hsplit =>
    Deed.isTrueAfter_of_fits (hrow front deed back hsplit)⟩, fun hread => ?_⟩
  have hruns : s.engine.runs = (Tally.after row).runs := congrArg Tally.runs htally
  rw [hdeliveries, hruns]
  refine forall_isTrue_iff hrow ?_
  rintro ⟨step, hstep, cause, hcause⟩
  obtain ⟨now, hnow⟩ := hread step hstep
  cases hcause.symm.trans hnow

open ProcessTable

/-- A copy and a reset. The message about the reset is not true, and so it is not true of all three
deliveries. -/
theorem truth_served_heard :
    let steps : List (Clock × Activity) :=
      [(textTick.1, .operation (.poll textTick.2)), (textTick.1, .operation .reset)]
    let s := heard.served (heard.opening sound .empty textTick.1) steps
    heard.receiver = some (fun _ => none) ∧ (∀ step ∈ steps, ∃ now, step.1.read = .ok now) ∧
      s.around.deliveries.length = 3 ∧ s.engine.runs = 1 ∧
      ¬∀ d ∈ s.around.deliveries, d.IsTrue := by
  intro steps s
  have hread : ∀ step ∈ steps, ∃ now, step.1.read = .ok now := by
    simp only [steps, List.forall_mem_cons]
    exact ⟨⟨_, rfl⟩, ⟨_, rfl⟩, by simp⟩
  have hall := (truth_served (w := heard) rfl sound .empty textTick.1 steps).2 hread
  have hruns : s.engine.runs = 1 := by decide +kernel
  refine ⟨rfl, hread, by decide +kernel, hruns, ?_⟩
  rw [hall, hruns]
  decide

/-- The message about the first reset reaches the receiver with a count of no resets, when one can
already be read. -/
theorem message_shows_no_reset :
    let s := (heard.resetManually.run.run (heard.opening sound .empty textTick.1)).2
    let message : Delivery :=
      ⟨"Copies: 0 | Resets: 0 | Diagnostics: off | Last reset 09:05:07 (manual)", 0, 1⟩
    message ∈ s.around.deliveries ∧ ¬message.IsTrue := by
  refine ⟨by decide +kernel, ?_⟩
  rintro ⟨status, htext, -, hresets⟩
  have hstatus : ({ lastMessage := some "Last reset 09:05:07 (manual)" } : Status).text =
      status.text := (by decide +kernel : _ = _).trans htext
  have hzero := (Status.counters_of_text_eq hstatus).2
  rw [← hzero] at hresets
  cases hresets

end Watchdog

end ClipboardWatchdog
