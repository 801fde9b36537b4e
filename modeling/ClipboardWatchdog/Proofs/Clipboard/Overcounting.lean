import ClipboardWatchdog.Proofs.Clipboard.Looping
import ClipboardWatchdog.Proofs.Clipboard.Strategies
import Mathlib.Data.List.Chain

/-!
# Copies counted and copies made

A clipboard is followed by ticks while copies are made. Whatever the sequence numbers say, each text
that is counted was held after some number of copies, and no two texts that are counted one after
the other are the same. So from one counted text to the next at least one copy was made, and no more
texts are counted than copies were made, with the one that was there at the start
(`Monitor.ticks_never_overcount`). A tick that cannot read its clock counts its copy without a
report, and the reports around it may show the same text.
-/

namespace ClipboardWatchdog

/-- The text of the copy that was counted, if one was. -/
def PollOutcome.text? : PollOutcome → Option String
  | .changed copy => some copy.text
  | _ => none

namespace CopyCounter

/-! ### Texts that are counted -/

/-- The texts that a counter counts in a row of readings. -/
def changes (c : CopyCounter) (run : List Reading) : List String :=
  (c.outcomes run).filterMap PollOutcome.text?

variable {contents : ℕ → String} {made made' : ℕ} {c : CopyCounter}

/-- No text is counted right after itself, and none right after the one that the counter keeps. -/
lemma isChain_changes (c : CopyCounter) (run : List Reading) :
    (c.lastText.toList ++ c.changes run).IsChain (· ≠ ·) := by
  induction run generalizing c with
  | nil => cases h : c.lastText <;> simp [changes, outcomes]
  | cons r run ih =>
    have hrest := ih (c.take r).2
    have htaken := c.taken_take r
    simp only [changes, outcomes, List.filterMap_cons] at hrest ⊢
    generalize c.take r = taken at htaken hrest ⊢
    cases htaken with
    | failed _ => exact hrest
    | empty _ => exact hrest
    | known _ _ _ => exact hrest
    | copied text _ hlast =>
      cases h : c.lastText with
      | none => exact hrest
      | some last =>
        refine List.isChain_cons_cons.mpr ⟨?_, hrest⟩
        rintro rfl
        exact hlast h

/-- The count goes up with each text that is counted. -/
lemma count_foldl_take (c : CopyCounter) (run : List Reading) :
    (run.foldl (fun c r => (c.take r).2) c).count = c.count + (c.changes run).length := by
  induction run generalizing c with
  | nil => rfl
  | cons r run ih =>
    rw [List.foldl_cons, ih]
    have htaken := c.taken_take r
    simp only [changes, outcomes, List.filterMap_cons]
    generalize c.take r = taken at htaken ⊢
    cases htaken with
    | failed _ => rfl
    | empty _ => rfl
    | known _ _ _ => rfl
    | copied _ _ _ =>
      simp only [PollOutcome.text?, counted, List.length_cons]
      omega

/-! ### Copies that are made -/

/-- The count is backed by the copies that were made: the text counted last was held after some
number of copies, and no more copies than that were needed for all texts but the first. -/
structure Backed (contents : ℕ → String) (made : ℕ) (c : CopyCounter) : Prop where
  fresh : c.lastText = none → c.count = 0
  held : ∀ text, c.lastText = some text → ∃ n ≤ made, contents n = text ∧ c.count ≤ 1 + n

namespace Backed

lemma count_le (h : c.Backed contents made) : c.count ≤ 1 + made := by
  cases hlast : c.lastText with
  | none => simp [h.fresh hlast]
  | some text =>
    obtain ⟨n, hn, -, hcount⟩ := h.held text hlast
    omega

lemma mono (h : c.Backed contents made) (hle : made ≤ made') : c.Backed contents made' where
  fresh := h.fresh
  held text hlast := by
    obtain ⟨n, hn, hrest⟩ := h.held text hlast
    exact ⟨n, by omega, hrest⟩

/-- The count and the text are as they were after a reading that is no copy. -/
lemma seen (h : c.Backed contents made) (r : Reading) : (c.seen r).Backed contents made :=
  ⟨h.fresh, h.held⟩

/-- A reading that finds what the clipboard held since then keeps the count backed. A new text is
not the one counted last, and so was not yet held at that time. -/
lemma take (h : c.Backed contents made) {r : Reading} (hle : made ≤ made')
    (hr : ∀ text, r.read = some text → ∃ n, made ≤ n ∧ n ≤ made' ∧ contents n = text) :
    (c.take r).2.Backed contents made' := by
  match c.take r, c.taken_take r with
  | _, .failed _ => exact (h.mono hle).seen r
  | _, .empty _ => exact (h.mono hle).seen r
  | _, .known _ _ _ => exact (h.mono hle).seen r
  | _, .copied text htext hlast =>
    obtain ⟨n, hfrom, hto, hn⟩ := hr text (Reading.text?_eq_some_iff.mp htext).1
    refine ⟨fun hnone => (Option.some_ne_none _ hnone).elim, ?_⟩
    rintro _ ⟨⟩
    refine ⟨n, hto, hn, ?_⟩
    change c.count + 1 ≤ 1 + n
    cases hseen : c.lastText with
    | none =>
      have hzero := h.fresh hseen
      omega
    | some seen =>
      obtain ⟨m, hm, hheld, hcount⟩ := h.held seen hseen
      have hne : m ≠ n := by
        rintro rfl
        exact hlast (by rw [hseen, ← hheld, hn])
      omega

end Backed

end CopyCounter

/-! ### Ticks amid copies -/

/-- A tick amid copies: its clock, what it observes, and how many copies had been made when it
sampled the sequence number first and when it sampled it again. -/
structure Glimpse where
  clock : Clock
  seen : Observation
  before : ℕ
  after : ℕ

namespace Glimpse

def look (g : Glimpse) : Clock × Observation := (g.clock, g.seen)

/-- Ticks one after the other on a clipboard that holds these texts, one for each number of copies.
What a tick reads is held at some moment between its two samples, if it reads anything. -/
structure Follow (contents : ℕ → String) (limit : Span) (run : List Glimpse) : Prop where
  ordered : run.Pairwise fun g g' => g.after ≤ g'.before
  lasting : ∀ g ∈ run, g.before ≤ g.after
  reading : ∀ g ∈ run, ∀ text, g.seen.read.text? limit = some text →
    ∃ n, g.before ≤ n ∧ n ≤ g.after ∧ contents n = text

end Glimpse

lemma Poll.outcome_of_ofOutcome {clock : Clock} {outcome : PollOutcome} {poll : Poll}
    (h : ofOutcome clock outcome = .ok poll) : poll.outcome = outcome := by
  cases outcome with
  | changed copy =>
    cases hclock : clock.read with
    | error fault => simp [ofOutcome, hclock, bind, Except.bind] at h
    | ok m =>
      simp only [ofOutcome, hclock] at h
      cases h
      rfl
  | _ =>
    cases h
    rfl

namespace Monitor

variable {contents : ℕ → String} {limit : Span} {run : List Glimpse}

lemma length_ticks_le (limit : Span) (looks : List (Clock × Observation)) (m : Monitor) :
    (m.ticks limit looks).1.length ≤ looks.length := by
  induction looks generalizing m with
  | nil => exact Nat.le_refl 0
  | cons look looks ih =>
    obtain ⟨clock, o⟩ := look
    have hrest := ih (m.tick limit clock o).2
    simp only [ticks, List.length_append, List.length_cons]
    have hreport : (m.tick limit clock o).1.toOption.toList.length ≤ 1 := by
      cases (m.tick limit clock o).1 <;> simp [Except.toOption]
    omega

/-- Where every tick comes to a report, the reports show all texts that are counted. -/
lemma texts_ticks {looks : List (Clock × Observation)} {m : Monitor}
    (h : (m.ticks limit looks).1.length = looks.length) :
    (m.ticks limit looks).1.filterMap (·.outcome.text?) =
      m.counter.changes (looks.map fun look => look.2.reading limit) := by
  induction looks generalizing m with
  | nil => rfl
  | cons look looks ih =>
    obtain ⟨clock, o⟩ := look
    have hle := length_ticks_le limit looks (m.tick limit clock o).2
    simp only [ticks, List.length_append, List.length_cons] at h ⊢
    cases hreport : (m.tick limit clock o).1 with
    | error fault =>
      simp only [hreport, Except.toOption, Option.toList_none, List.length_nil] at h
      omega
    | ok poll =>
      simp only [hreport, Except.toOption, Option.toList_some, List.length_singleton] at h
      have hrest := @ih (m.tick limit clock o).2 (by omega)
      have houtcome : poll.outcome = (m.counter.take (o.reading limit)).1 :=
        Poll.outcome_of_ofOutcome hreport
      have hcounter : (m.tick limit clock o).2.counter =
          (m.counter.take (o.reading limit)).2 := rfl
      simp only [Except.toOption, Option.toList_some, List.singleton_append, List.filterMap_cons,
        hrest, hcounter, houtcome, CopyCounter.changes, CopyCounter.outcomes, List.map_cons]

/-- After ticks that follow a clipboard the count is backed by the copies that were made. -/
lemma backed_ticks (threshold : ℕ) (h : Glimpse.Follow contents limit run) {now : ℕ}
    (hnow : ∀ g ∈ run, g.after ≤ now) :
    ((Monitor.new threshold).ticks limit (run.map Glimpse.look)).2.counter.Backed
      contents now := by
  induction run using List.reverseRecOn generalizing now with
  | nil =>
    refine ⟨fun _ => rfl, fun text hlast => ?_⟩
    exact (Option.some_ne_none text hlast.symm).elim
  | append_singleton past g ih =>
    have hg : g ∈ past ++ [g] := List.mem_append_right past List.mem_cons_self
    have hpast : ∀ g' ∈ past, g'.after ≤ g.before := fun g' hg' =>
      (List.pairwise_append.mp h.ordered).2.2 g' hg' g List.mem_cons_self
    have hfollow : Glimpse.Follow contents limit past :=
      ⟨(List.pairwise_append.mp h.ordered).1,
        fun g' hg' => h.lasting g' (List.mem_append_left _ hg'),
        fun g' hg' => h.reading g' (List.mem_append_left _ hg')⟩
    have hbacked := ih hfollow hpast
    rw [List.map_append, ticks_append]
    have hread : ∀ text, (g.seen.reading limit).read = some text →
        ∃ n, g.before ≤ n ∧ n ≤ g.after ∧ contents n = text := h.reading g hg
    exact (hbacked.take (h.lasting g hg) hread).mono (hnow g hg)

/-- Polling counts no more texts than copies were made, with the one that was there at the start,
and never a text right after itself. Neither do the reports of ticks in a row show a text right
after itself, if each of these ticks comes to a report. -/
theorem ticks_never_overcount (threshold : ℕ) (h : Glimpse.Follow contents limit run) :
    let fresh := Monitor.new threshold
    let counted := fresh.counter.changes (run.map fun g => g.seen.reading limit)
    (fresh.ticks limit (run.map Glimpse.look)).2.counter.count = counted.length ∧
    (∀ now, (∀ g ∈ run, g.after ≤ now) → counted.length ≤ 1 + now) ∧
    counted.IsChain (· ≠ ·) ∧
    ∀ past part later, run = past ++ part ++ later →
      let before := (fresh.ticks limit (past.map Glimpse.look)).2
      let reports := (before.ticks limit (part.map Glimpse.look)).1
      reports.length = part.length → (reports.filterMap (·.outcome.text?)).IsChain (· ≠ ·) := by
  intro fresh counted
  have hcount : (fresh.ticks limit (run.map Glimpse.look)).2.counter.count = counted.length := by
    rw [ticks_snd, List.map_map]
    exact (CopyCounter.count_foldl_take _ _).trans (Nat.zero_add _)
  refine ⟨hcount, fun now hnow => ?_, ?_, ?_⟩
  · rw [← hcount]
    exact (backed_ticks threshold h hnow).count_le
  · exact fresh.counter.isChain_changes _
  · rintro past part later - before reports hlength
    have htexts : reports.filterMap (·.outcome.text?) =
        before.counter.changes ((part.map Glimpse.look).map fun look => look.2.reading limit) :=
      texts_ticks (hlength.trans (List.length_map _).symm)
    rw [htexts]
    exact (before.counter.isChain_changes _).right_of_append

/-- The text `b` takes the place of `a`, and `a` comes back. -/
def thereAndBack (copies : ℕ) : String := if copies = 1 then "b" else "a"

/-- One tick for each of the three texts. The second cannot read its clock. -/
def tickEach : List Glimpse :=
  [⟨⟨⟨1773047107, 42000000⟩⟩, ⟨10, [], .answered (.ok "a"), 10⟩, 0, 0⟩,
    ⟨⟨⟨-1, 0⟩⟩, ⟨11, [], .answered (.ok "b"), 11⟩, 1, 1⟩,
    ⟨⟨⟨1773047107, 42000000⟩⟩, ⟨12, [], .answered (.ok "a"), 12⟩, 2, 2⟩]

lemma follow_tickEach : Glimpse.Follow thereAndBack .zero tickEach where
  ordered := by decide
  lasting := by decide
  reading := by
    simp only [tickEach, List.forall_mem_cons]
    refine ⟨?_, ?_, ?_, by simp⟩
    · rintro _ ⟨⟩
      exact ⟨0, Nat.le_refl 0, Nat.le_refl 0, rfl⟩
    · rintro _ ⟨⟩
      exact ⟨1, Nat.le_refl 1, Nat.le_refl 1, rfl⟩
    · rintro _ ⟨⟩
      exact ⟨2, Nat.le_refl 2, Nat.le_refl 2, rfl⟩

theorem ticks_never_overcount_thereAndBack :
    Glimpse.Follow thereAndBack .zero tickEach ∧
      let fresh := Monitor.new 7
      let counted := fresh.counter.changes (tickEach.map fun g => g.seen.reading .zero)
      (fresh.ticks .zero (tickEach.map Glimpse.look)).2.counter.count = counted.length ∧
      (∀ now, (∀ g ∈ tickEach, g.after ≤ now) → counted.length ≤ 1 + now) ∧
      counted.IsChain (· ≠ ·) ∧
      ∀ past part later, tickEach = past ++ part ++ later →
        let before := (fresh.ticks .zero (past.map Glimpse.look)).2
        let reports := (before.ticks .zero (part.map Glimpse.look)).1
        reports.length = part.length → (reports.filterMap (·.outcome.text?)).IsChain (· ≠ ·) :=
  ⟨follow_tickEach, ticks_never_overcount 7 follow_tickEach⟩

/-- The tick that cannot read its clock has counted `b`, and the reports around it both show `a`. -/
theorem same_text_around_fault :
    Glimpse.Follow thereAndBack .zero tickEach ∧
      let reports := ((Monitor.new 7).ticks .zero (tickEach.map Glimpse.look)).1
      reports.filterMap (·.outcome.text?) = ["a", "a"] ∧
        ¬(reports.filterMap (·.outcome.text?)).IsChain (· ≠ ·) :=
  ⟨follow_tickEach, by decide, by decide⟩

end Monitor

end ClipboardWatchdog
