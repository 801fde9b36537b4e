import ClipboardWatchdog.Proofs.Clipboard.Timeline
import Mathlib.Data.List.Induction

/-!
# False alarms of notifications

The tracker keeps the sequence number of every notification and the fingerprint of the readable
ones only. On a clipboard that signals every copy, `notification_alarm_iff` says which
notifications are taken for an unsignalled copy all the same: those that nothing overtakes, right
after a notification that has missed the text they find.
-/

namespace ClipboardWatchdog

/-- What happens to a tracker: it starts afresh, or it is notified, takes a look, and reads the
clock for its snapshot. -/
inductive Happening
  | reset
  | notified (clock : Clock) (look : Look)

namespace Happening

/-- The look that is taken, if one is. -/
def look? : Happening → Option Look
  | reset => none
  | notified _ l => some l

/-- The looks that a tracker has heard of since it last started afresh, the latest first. A
notification that the clock cannot date does not reach it. -/
def heard (past : List Happening) : List Look :=
  past.foldl (fun looks h =>
    match h with
    | reset => []
    | notified clock l =>
      match clock.read with
      | .ok _ => l :: looks
      | .error _ => looks) []

lemma heard_concat_reset (past : List Happening) : heard (past ++ [reset]) = [] := by
  simp [heard]

lemma heard_concat_notified (past : List Happening) (clock : Clock) (l : Look) :
    heard (past ++ [notified clock l]) =
      match clock.read with
      | .ok _ => l :: heard past
      | .error _ => heard past := by
  simp [heard]

/-- A tracker hears only of looks that were taken. -/
lemma mem_looks_of_mem_heard {past : List Happening} {l : Look} (h : l ∈ heard past) :
    l ∈ past.filterMap look? := by
  induction past using List.reverseRecOn with
  | nil => simp [heard] at h
  | append_singleton past last ih =>
    rw [List.filterMap_append, List.mem_append]
    cases last with
    | reset => simp [heard_concat_reset] at h
    | notified clock m =>
      rw [heard_concat_notified] at h
      cases hc : clock.read with
      | error fault =>
        rw [hc] at h
        exact Or.inl (ih h)
      | ok now =>
        rw [hc] at h
        rcases List.mem_cons.mp h with rfl | h
        · exact Or.inr (by simp [look?])
        · exact Or.inl (ih h)

end Happening

lemma ChangeKind.between_eq_signalMissing_iff {moved : Bool} {previous current : Option String} :
    between moved previous current = signalMissing ↔ moved = false ∧ previous ≠ current := by
  unfold between
  cases hd : previous != current with
  | true =>
    rw [bne_iff_ne] at hd
    cases moved <;> cases current <;> simp [hd]
  | false =>
    rw [bne_eq_false_iff_eq] at hd
    cases moved <;> cases current <;> simp [hd]

namespace Timeline

variable (c : Timeline) (limit : Span)

/-- The tracker after one thing more has happened to it. -/
def handle (t : ChangeTracker) : Happening → ChangeTracker
  | .reset => .new
  | .notified clock l =>
    match t.notify limit clock (c.observation l) with
    | .ok (_, t) => t
    | .error _ => t

/-- The tracker after all that has happened to it. -/
def tracked (past : List Happening) : ChangeTracker := past.foldl (c.handle limit) .new

/-- After all that has happened, a notification is taken for an unsignalled copy. -/
def TakenForUnsignalled (past : List Happening) (clock : Clock) (l : Look) : Prop :=
  ∃ n t, (c.tracked limit past).notify limit clock (c.observation l) = .ok (n, t) ∧
    n.kind = .signalMissing

/-- The last text that could be read at a notification since the tracker started afresh. -/
def lastReadable (past : List Happening) : Option String :=
  (Happening.heard past).findSome? c.read?

/-- A notification is a failure of the clock, or it is classified and remembered. -/
lemma notify_eq (t : ChangeTracker) (clock : Clock) (l : Look) :
    t.notify limit clock (c.observation l) =
      match clock.read with
      | .error fault => .error fault
      | .ok now =>
        let s : Snapshot := ⟨c.sequence l.after, c.read? l, c.formats l.listedAt, now⟩
        .ok (⟨(t.track s (c.sequence l.before)).1, s⟩, (t.track s (c.sequence l.before)).2) := by
  simp only [ChangeTracker.notify, text?_observation, after_observation, before_observation]
  cases clock.read <;> rfl

/-- What the tracker remembers: the number that the clipboard had at the end of the last look it
heard of, and the fingerprint of the last readable one. -/
lemma memory_tracked (past : List Happening) :
    (c.tracked limit past).lastSequence =
        (Happening.heard past).head?.map (fun l => c.sequence l.after) ∧
      (c.tracked limit past).lastPrint = Snapshot.fingerprintOf (c.lastReadable past) := by
  induction past using List.reverseRecOn with
  | nil => exact ⟨rfl, rfl⟩
  | append_singleton past last ih =>
    have hstep : c.tracked limit (past ++ [last]) = c.handle limit (c.tracked limit past) last := by
      simp [tracked]
    rw [hstep, lastReadable]
    cases last with
    | reset =>
      rw [Happening.heard_concat_reset]
      exact ⟨rfl, rfl⟩
    | notified clock l =>
      rw [Happening.heard_concat_notified, handle, notify_eq]
      cases hc : clock.read with
      -- a notification that the clock cannot date leaves no trace
      | error fault => exact ih
      | ok now =>
        cases hr : c.read? l with
        | none => simpa [ChangeTracker.track, lastReadable, hr] using ih.2
        | some text => simp [ChangeTracker.track, Snapshot.print, hr]

/-- A snapshot is taken for an unsignalled copy where it can be read, no number has moved since the
one before it, and the fingerprints differ. -/
lemma track_eq_signalMissing_iff (t : ChangeTracker) (s : Snapshot) (before : ℕ) :
    (t.track s before).1 = .signalMissing ↔
      s.text.isSome ∧ t.lastSequence = some before ∧ t.lastSequence = some s.sequence ∧
        t.lastPrint ≠ s.print := by
  unfold ChangeTracker.track
  cases s.text with
  | none => simp
  | some text =>
    cases t.lastSequence with
    | none => simp
    | some n => simp [ChangeKind.between_eq_signalMissing_iff, and_assoc]

lemma takenForUnsignalled_iff (past : List Happening) (clock : Clock) (l : Look) :
    c.TakenForUnsignalled limit past clock l ↔
      (∃ m, clock.read = .ok m) ∧ (c.read? l).isSome ∧
        (c.tracked limit past).lastSequence = some (c.sequence l.before) ∧
        (c.tracked limit past).lastSequence = some (c.sequence l.after) ∧
        (c.tracked limit past).lastPrint ≠ Snapshot.fingerprintOf (c.read? l) := by
  rw [TakenForUnsignalled, notify_eq]
  cases clock.read with
  | error fault => simp
  | ok now =>
    have hkind := track_eq_signalMissing_iff (c.tracked limit past)
      ⟨c.sequence l.after, c.read? l, c.formats l.listedAt, now⟩ (c.sequence l.before)
    simp only [Snapshot.print] at hkind
    rw [← hkind]
    constructor
    · rintro ⟨n, t, heq, hn⟩
      cases heq
      exact ⟨⟨now, rfl⟩, hn⟩
    · rintro ⟨-, hn⟩
      exact ⟨_, _, rfl, hn⟩

/-- Where nothing was copied from the end of a settled look to the end of the next, both find the
same text. -/
lemma lastReadable_of_isSettled {past : List Happening} {l last : Look} {text : String}
    (hlast : last ∈ (Happening.heard past).head?) (hs : last.IsSettled)
    (hr : l.readAt = last.after) (ht : c.read? l = some text) :
    c.lastReadable past = some text := by
  obtain ⟨rest, hrest⟩ := List.head?_eq_some_iff.mp hlast
  have htext := c.eq_text_of_read? ht
  rw [hr] at htext
  rw [lastReadable, hrest, List.findSome?_cons, c.read?_of_isSettled hs, htext]

/-- On a clipboard that signals every copy, a notification is taken for an unsignalled one exactly
if nothing was copied from the end of the notification before it to its own end, it can read, and
the fingerprint that it finds is not the one of the last readable notification. The notification
before it was then not settled. -/
theorem notification_alarm_iff (past : List Happening) (clock : Clock) (l : Look)
    (h : Look.Orderly (past.filterMap Happening.look? ++ [l])) :
    (c.TakenForUnsignalled limit past clock l ↔
      (∃ m, clock.read = .ok m) ∧
        (∃ last ∈ (Happening.heard past).head?, last.after = l.after) ∧
        (c.read? l).isSome ∧
          Snapshot.fingerprintOf (c.lastReadable past) ≠ Snapshot.fingerprintOf (c.read? l)) ∧
    (c.TakenForUnsignalled limit past clock l →
      ∃ last ∈ (Happening.heard past).head?, ¬last.IsSettled) := by
  obtain ⟨hseq, hprint⟩ := c.memory_tracked limit past
  have hquiet : ∀ last ∈ (Happening.heard past).head?, last.after = l.after →
      l.before = last.after ∧ l.readAt = last.after := fun last hlast hafter =>
    Look.readAt_eq_of_quiet
      (h.le_of_mem (Happening.mem_looks_of_mem_heard (List.mem_of_mem_head? hlast))) hafter
  have hiff : c.TakenForUnsignalled limit past clock l ↔
      (∃ m, clock.read = .ok m) ∧
        (∃ last ∈ (Happening.heard past).head?, last.after = l.after) ∧
        (c.read? l).isSome ∧
          Snapshot.fingerprintOf (c.lastReadable past) ≠
            Snapshot.fingerprintOf (c.read? l) := by
    rw [takenForUnsignalled_iff]
    refine and_congr_right fun _ => ?_
    rw [hseq, hprint]
    simp only [Option.map_eq_some_iff, sequence_inj]
    constructor
    · rintro ⟨hsome, -, ⟨last, hlast, hafter⟩, hne⟩
      exact ⟨⟨last, hlast, hafter⟩, hsome, hne⟩
    · rintro ⟨⟨last, hlast, hafter⟩, hsome, hne⟩
      exact ⟨hsome, ⟨last, hlast, (hquiet last hlast hafter).1.symm⟩, ⟨last, hlast, hafter⟩, hne⟩
  refine ⟨hiff, fun halarm => ?_⟩
  obtain ⟨-, ⟨last, hlast, hafter⟩, hsome, hne⟩ := hiff.mp halarm
  refine ⟨last, hlast, fun hs => hne ?_⟩
  obtain ⟨text, ht⟩ := Option.isSome_iff_exists.mp hsome
  rw [c.lastReadable_of_isSettled hlast hs (hquiet last hlast hafter).2 ht, ht]

/-- Two notifications around one copy, which lands right after the reading of the second. -/
def overtakenNotifications : List Happening :=
  [.notified ⟨⟨1773047107, 42000000⟩⟩ (.still 0), .notified ⟨⟨1773047107, 42000000⟩⟩ (.overtaken 0)]

theorem notification_alarm_iff_oneCopy :
    Look.Orderly (overtakenNotifications.filterMap Happening.look? ++ [.still 1]) ∧
      ((oneCopy.TakenForUnsignalled ⟨2, 0⟩ overtakenNotifications ⟨⟨1773047107, 42000000⟩⟩
          (.still 1) ↔
        (∃ m, (⟨⟨1773047107, 42000000⟩⟩ : Clock).read = .ok m) ∧
          (∃ last ∈ (Happening.heard overtakenNotifications).head?,
            last.after = (Look.still 1).after) ∧
          (oneCopy.read? (.still 1)).isSome ∧
            Snapshot.fingerprintOf (oneCopy.lastReadable overtakenNotifications) ≠
              Snapshot.fingerprintOf (oneCopy.read? (.still 1))) ∧
      (oneCopy.TakenForUnsignalled ⟨2, 0⟩ overtakenNotifications ⟨⟨1773047107, 42000000⟩⟩
          (.still 1) →
        ∃ last ∈ (Happening.heard overtakenNotifications).head?, ¬last.IsSettled)) :=
  ⟨by decide, notification_alarm_iff oneCopy ⟨2, 0⟩ overtakenNotifications
    ⟨⟨1773047107, 42000000⟩⟩ (.still 1) (by decide)⟩

/-- The copy has moved the sequence number from ten to eleven, and yet its own notification is
taken for one of a copy that was not signalled. -/
theorem signalled_copy_taken_for_unsignalled :
    Look.Orderly (overtakenNotifications.filterMap Happening.look? ++ [.still 1]) ∧
      oneCopy.TakenForUnsignalled ⟨2, 0⟩ overtakenNotifications ⟨⟨1773047107, 42000000⟩⟩
        (.still 1) :=
  ⟨by decide, _, _, rfl, by decide +kernel⟩

end Timeline

end ClipboardWatchdog
