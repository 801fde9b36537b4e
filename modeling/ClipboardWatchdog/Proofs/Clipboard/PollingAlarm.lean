import ClipboardWatchdog.Proofs.Clipboard.Timeline
import Mathlib.Data.List.Induction

/-!
# False alarms of polling

Polling tells of a missed signal where the text has changed and the sequence number has not moved
since the tick before. On a clipboard that signals every copy each such alarm is false. It comes
up exactly where a tick that nothing overtakes finds a text that the ticks before it have missed:
`polling_alarm_iff`. The tick right before the alarm has then failed to read, or a copy landed
between its reading and its second sample.
-/

namespace ClipboardWatchdog

/-- A tick of polling: the look that it takes and the clock that it can read. -/
structure Tick where
  clock : Clock
  look : Look

/-- The report tells of a missed signal. -/
def Poll.isAlarm (p : Poll) : Bool :=
  match p.outcome with
  | .changed copy => copy.signalMissing
  | _ => false

namespace Timeline

variable (c : Timeline) (limit : Span) (threshold : Nat)

/-- The counter after a row of ticks. -/
def polled (ticks : List Tick) : CopyCounter :=
  ticks.foldl (fun k t => (Poll.tick limit t.clock (c.observation t.look) k).2) (.new threshold)

/-- After a row of ticks, the next one returns an alarm. -/
def RaisesAlarm (past : List Tick) (t : Tick) : Prop :=
  ∃ poll, (Poll.tick limit t.clock (c.observation t.look) (c.polled limit threshold past)).1 =
    .ok poll ∧ poll.isAlarm = true

/-- The text that a look takes in: the one that it reads, unless that is empty. -/
def taken? (l : Look) : Option String := (c.read? l).filter (· ≠ "")

/-- The last text that a row of ticks has taken in. -/
def lastTaken (ticks : List Tick) : Option String :=
  (ticks.filterMap fun t => c.taken? t.look).getLast?

lemma taken?_eq_some_iff {l : Look} {text : String} :
    c.taken? l = some text ↔ c.read? l = some text ∧ text ≠ "" := by
  simp [taken?, Option.filter_eq_some_iff]

/-- The text of a copy that a tick counts is the one that it has taken in. -/
lemma tick_snd (l : Look) (clock : Clock) (k : CopyCounter) :
    (Poll.tick limit clock (c.observation l) k).2.lastText = (c.taken? l).or k.lastText ∧
      (Poll.tick limit clock (c.observation l) k).2.lastSequence = some (c.sequence l.after) := by
  simp only [Poll.tick, CopyCounter.observe, text?_observation, after_observation, taken?]
  cases c.read? l with
  | none => simp
  | some text =>
    by_cases he : text = ""
    · simp [he, Option.filter_some]
    · by_cases hs : k.lastText = some text <;> simp [he, hs, Option.filter_some]

lemma polled_concat (past : List Tick) (t : Tick) :
    c.polled limit threshold (past ++ [t]) =
      (Poll.tick limit t.clock (c.observation t.look) (c.polled limit threshold past)).2 := by
  simp [polled]

lemma lastTaken_concat (past : List Tick) (t : Tick) :
    c.lastTaken (past ++ [t]) = (c.taken? t.look).or (c.lastTaken past) := by
  simp only [lastTaken, List.filterMap_append, List.getLast?_append]
  cases h : c.taken? t.look <;> simp [h]

/-- What the counter remembers: the last text taken in, and the number that the clipboard had at
the end of the last tick. -/
lemma memory_polled (past : List Tick) :
    (c.polled limit threshold past).lastText = c.lastTaken past ∧
      (c.polled limit threshold past).lastSequence =
        past.getLast?.map fun t => c.sequence t.look.after := by
  induction past using List.reverseRecOn with
  | nil => exact ⟨rfl, rfl⟩
  | append_singleton past t ih =>
    obtain ⟨htext, hseq⟩ := c.tick_snd limit t.look t.clock (c.polled limit threshold past)
    rw [polled_concat, lastTaken_concat]
    constructor
    · rw [htext, ih.1]
    · rw [hseq, List.getLast?_concat, Option.map_some]

/-- A tick returns an alarm where it counts a copy that the counter takes for unsignalled and the
clock can date it. -/
lemma raisesAlarm_iff_signalMissing (past : List Tick) (t : Tick) :
    c.RaisesAlarm limit threshold past t ↔
      (∃ m, t.clock.read = .ok m) ∧
        (∃ text, c.taken? t.look = some text ∧ c.lastTaken past ≠ some text) ∧
        (c.polled limit threshold past).signalMissing (c.sequence t.look.before)
          (c.sequence t.look.after) = true := by
  obtain ⟨htext, -⟩ := c.memory_polled limit threshold past
  rw [← htext]
  simp only [RaisesAlarm, Poll.tick, CopyCounter.observe, text?_observation, before_observation,
    after_observation, taken?]
  cases c.read? t.look with
  | none => simp [Poll.ofOutcome, Poll.isAlarm]
  | some text =>
    by_cases he : text = ""
    · simp [he, Poll.ofOutcome, Poll.isAlarm]
    · by_cases hs : (c.polled limit threshold past).lastText = some text
      · simp [he, hs, Poll.ofOutcome, Poll.isAlarm]
      · cases hc : t.clock.read with
        | error fault => simp [he, hs, hc, Poll.ofOutcome, bind, Except.bind]
        | ok m => simp [he, hs, hc, Poll.ofOutcome, Poll.isAlarm, bind, Except.bind, pure,
            Except.pure]

/-- The numbers agree where nothing was copied from the end of the last tick to the end of this
one. -/
lemma signalMissing_polled (hc : 0 < c.first) {past : List Tick} {t : Tick}
    (h : Look.Orderly ((past ++ [t]).map Tick.look)) :
    (c.polled limit threshold past).signalMissing (c.sequence t.look.before)
        (c.sequence t.look.after) = true ↔
      (c.lastTaken past).isSome ∧ ∃ last ∈ past.getLast?, last.look.after = t.look.after := by
  obtain ⟨htext, hseq⟩ := c.memory_polled limit threshold past
  have hpos : c.sequence t.look.after ≠ 0 := by simp only [sequence]; omega
  simp only [CopyCounter.signalMissing, htext, hseq, Bool.and_eq_true, bne_iff_ne, beq_iff_eq,
    Option.map_eq_some_iff, sequence_inj]
  constructor
  · rintro ⟨⟨⟨hsome, -⟩, -⟩, last, hlast, hafter⟩
    exact ⟨hsome, last, hlast, hafter⟩
  · rintro ⟨hsome, last, hlast, hafter⟩
    rw [List.map_append, List.map_singleton] at h
    have hle := h.le_of_mem (List.mem_map_of_mem (List.mem_of_getLast? hlast))
    have hq := Look.readAt_eq_of_quiet hle hafter
    exact ⟨⟨⟨hsome, hpos⟩, last, hlast, hq.1.symm⟩, last, hlast, hafter⟩

/-- A tick right after a settled one takes in what that one took in, if nothing is copied from the
end of the one to the end of the other. -/
lemma lastTaken_of_isSettled {past : List Tick} {t last : Tick} {text : String}
    (hlast : last ∈ past.getLast?) (hs : last.look.IsSettled)
    (hr : t.look.readAt = last.look.after) (ht : c.taken? t.look = some text) :
    c.lastTaken past = some text := by
  obtain ⟨front, rfl⟩ := List.getLast?_eq_some_iff.mp hlast
  obtain ⟨hread, hne⟩ := c.taken?_eq_some_iff.mp ht
  have htext := c.eq_text_of_read? hread
  rw [hr] at htext
  have htaken : c.taken? last.look = some text :=
    c.taken?_eq_some_iff.mpr ⟨by rw [c.read?_of_isSettled hs, htext], hne⟩
  rw [lastTaken_concat, htaken, Option.some_or]

/-- On a clipboard that signals every copy, a tick raises an alarm exactly if nothing was copied
from the end of the tick before it to its own end, it takes in a text, and that text is not the
last one that was taken in. The tick before it was then not settled. -/
theorem polling_alarm_iff (hc : 0 < c.first) (past : List Tick) (t : Tick)
    (h : Look.Orderly ((past ++ [t]).map Tick.look)) :
    (c.RaisesAlarm limit threshold past t ↔
      (∃ m, t.clock.read = .ok m) ∧
        (∃ last ∈ past.getLast?, last.look.after = t.look.after) ∧
        ∃ text, c.taken? t.look = some text ∧ ∃ seen, c.lastTaken past = some seen ∧ seen ≠ text) ∧
    (c.RaisesAlarm limit threshold past t →
      ∃ last ∈ past.getLast?, ¬last.look.IsSettled) := by
  have hiff : c.RaisesAlarm limit threshold past t ↔
      (∃ m, t.clock.read = .ok m) ∧
        (∃ last ∈ past.getLast?, last.look.after = t.look.after) ∧
        ∃ text, c.taken? t.look = some text ∧
          ∃ seen, c.lastTaken past = some seen ∧ seen ≠ text := by
    rw [raisesAlarm_iff_signalMissing, c.signalMissing_polled limit threshold hc h]
    constructor
    · rintro ⟨hm, ⟨text, ht, hne⟩, hsome, hquiet⟩
      obtain ⟨seen, hseen⟩ := Option.isSome_iff_exists.mp hsome
      refine ⟨hm, hquiet, text, ht, seen, hseen, ?_⟩
      rintro rfl
      exact hne hseen
    · rintro ⟨hm, hquiet, text, ht, seen, hseen, hne⟩
      refine ⟨hm, ⟨text, ht, ?_⟩, by simp [hseen], hquiet⟩
      rw [hseen]
      simpa using hne
  refine ⟨hiff, fun halarm => ?_⟩
  obtain ⟨-, ⟨last, hlast, hafter⟩, text, ht, seen, hseen, hne⟩ := hiff.mp halarm
  refine ⟨last, hlast, fun hs => hne ?_⟩
  rw [List.map_append, List.map_singleton] at h
  have hle := h.le_of_mem (List.mem_map_of_mem (List.mem_of_getLast? hlast))
  have hq := Look.readAt_eq_of_quiet hle hafter
  have := c.lastTaken_of_isSettled hlast hs hq.2 ht
  exact Option.some_inj.mp (hseen.symm.trans this)

/-- Three ticks around one copy, which lands right after the reading of the second. -/
def overtakenTicks : List Tick :=
  [⟨⟨⟨1773047107, 42000000⟩⟩, .still 0⟩, ⟨⟨⟨1773047107, 42000000⟩⟩, .overtaken 0⟩]

/-- The tick that follows. -/
def tickAfterwards : Tick := ⟨⟨⟨1773047107, 42000000⟩⟩, .still 1⟩

theorem polling_alarm_iff_oneCopy :
    0 < oneCopy.first ∧ Look.Orderly ((overtakenTicks ++ [tickAfterwards]).map Tick.look) ∧
      ((oneCopy.RaisesAlarm ⟨2, 0⟩ 7 overtakenTicks tickAfterwards ↔
        (∃ m, tickAfterwards.clock.read = .ok m) ∧
          (∃ last ∈ overtakenTicks.getLast?, last.look.after = tickAfterwards.look.after) ∧
          ∃ text, oneCopy.taken? tickAfterwards.look = some text ∧
            ∃ seen, oneCopy.lastTaken overtakenTicks = some seen ∧ seen ≠ text) ∧
      (oneCopy.RaisesAlarm ⟨2, 0⟩ 7 overtakenTicks tickAfterwards →
        ∃ last ∈ overtakenTicks.getLast?, ¬last.look.IsSettled)) :=
  ⟨by decide, by decide,
    polling_alarm_iff oneCopy ⟨2, 0⟩ 7 (by decide) overtakenTicks tickAfterwards (by decide)⟩

/-- The copy has moved the sequence number from ten to eleven, and yet it raises an alarm. -/
theorem signalled_copy_raises_alarm :
    0 < oneCopy.first ∧ Look.Orderly ((overtakenTicks ++ [tickAfterwards]).map Tick.look) ∧
      oneCopy.RaisesAlarm ⟨2, 0⟩ 7 overtakenTicks tickAfterwards :=
  ⟨by decide, by decide, _, rfl, by decide⟩

end Timeline

end ClipboardWatchdog
