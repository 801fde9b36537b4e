import ClipboardWatchdog.Proofs.Watchdog.Completing

/-!
# Which resets polling asks for

A fresh watchdog polls, and its host only answers. What each tick asks for depends on its outcome,
which is a function of all the readings so far, on the health that the helper shows during the tick,
and on whether the clock can be read. As long as the helper is healthy, the resets can be counted
from the copies and the failed readings alone.
-/

namespace ClipboardWatchdog

variable {σ : Type} {answer : (c : Call) → σ → c.Answer × σ} {helper : String}

namespace Engine

variable {e : Engine σ} {outcome : PollOutcome}

/-- The health that the helper shows when the engine looks. -/
def sampled (answer : (c : Call) → σ → c.Answer × σ) (helper : String) (e : Engine σ) : Health :=
  (e.carryOut answer (probe helper)).1

/-- How the engine responds to the outcome of a tick. -/
inductive Responded (answer : (c : Call) → σ → c.Answer × σ) (helper : String) (e : Engine σ) :
    PollOutcome → Option Report × Engine σ → Prop
  | inaccessible :
    Responded answer helper e .inaccessible (e.report answer helper .clipboardInaccessible)
  | noText : Responded answer helper e .noText (none, e)
  | unchanged : Responded answer helper e .unchanged (none, e)
  | unhealthy (copy : Copy) (hrestart : (e.sampled answer helper).needsRestart = true) :
    Responded answer helper e (.changed copy)
      ((e.carryOut answer (probe helper)).2.report answer helper .unhealthy)
  | scheduled (copy : Copy) (hrestart : (e.sampled answer helper).needsRestart = false)
    (hdue : copy.resetDue = true) :
    Responded answer helper e (.changed copy)
      ((e.carryOut answer (probe helper)).2.report answer helper .scheduled)
  | calm (copy : Copy) (hrestart : (e.sampled answer helper).needsRestart = false)
    (hdue : copy.resetDue = false) :
    Responded answer helper e (.changed copy) (none, (e.carryOut answer (probe helper)).2)

lemma responded_respond (answer : (c : Call) → σ → c.Answer × σ) (helper : String) (e : Engine σ)
    (outcome : PollOutcome) :
    Responded answer helper e outcome (e.respond answer helper outcome) := by
  cases outcome with
  | inaccessible => exact .inaccessible
  | noText => exact .noText
  | unchanged => exact .unchanged
  | changed copy =>
    unfold respond
    dsimp only
    split
    · next hrestart => exact .unhealthy copy hrestart
    · next hrestart =>
      rw [Bool.not_eq_true] at hrestart
      split
      · next hdue => exact .scheduled copy hrestart hdue
      · next hdue => exact .calm copy hrestart (Bool.not_eq_true _ |>.mp hdue)

namespace Responded

variable {response : Option Report × Engine σ}

lemma busy (h : Responded answer helper e outcome response) (he : e.busy = false) :
    response.2.busy = false := by
  cases h with
  | noText | unchanged => exact he
  | calm => simp [he]
  | inaccessible | unhealthy | scheduled => rfl

/-- There is a run of the engine for every report, and for nothing else. -/
lemma runs (h : Responded answer helper e outcome response) :
    response.2.runs = e.runs + response.1.toList.length := by
  cases h with
  | noText | unchanged => rfl
  | calm => simp
  | inaccessible | unhealthy | scheduled => simp [report]

end Responded

end Engine

/-- The reasons for a reset that an outcome, with the health that was sampled, gives. -/
def PollOutcome.CallsFor (outcome : PollOutcome) (health : Health) (threshold : ℕ) : Reason → Prop
  | .clipboardInaccessible => outcome = .inaccessible
  | .unhealthy => (∃ copy, outcome = .changed copy) ∧ health.needsRestart = true
  | .scheduled => ∃ copy, outcome = .changed copy ∧ health.needsRestart = false ∧
      max threshold 1 ∣ copy.number
  | .manual => False

namespace Engine

variable {e : Engine σ} {outcome : PollOutcome} {threshold : ℕ}

@[simp] lemma map_reason_report (reason : Reason) :
    (e.report answer helper reason).1.map Report.reason = some reason := by
  simp [report, reason_restarted]

/-- The report, if there is one, is the report of a reset for the reason that there was. -/
lemma Responded.map_reason_iff {response : Option Report × Engine σ}
    (h : Responded answer helper e outcome response)
    (hdue : ∀ copy, outcome = .changed copy →
      (copy.resetDue = true ↔ max threshold 1 ∣ copy.number))
    (reason : Reason) :
    response.1.map Report.reason = some reason ↔
      outcome.CallsFor (e.sampled answer helper) threshold reason := by
  cases h with
  | inaccessible => cases reason <;> simp [PollOutcome.CallsFor]
  | noText | unchanged => cases reason <;> simp [PollOutcome.CallsFor]
  | unhealthy copy hrestart => cases reason <;> simp [PollOutcome.CallsFor, hrestart]
  | scheduled copy hrestart hcopy =>
    have hdvd : max threshold 1 ∣ copy.number := (hdue copy rfl).mp hcopy
    cases reason <;> simp [PollOutcome.CallsFor, hrestart, hdvd]
  | calm copy hrestart hcopy =>
    have hnot : ¬max threshold 1 ∣ copy.number := by
      rw [← hdue copy rfl, hcopy]
      exact Bool.false_ne_true
    cases reason <;> simp [PollOutcome.CallsFor, hrestart, hnot]

/-- A reading that fails is answered with one reset, and so is a copy whose number is a multiple of
the threshold, as long as the helper is healthy. -/
lemma length_respond_take {c : CopyCounter} {r : Reading}
    (hhealthy : ∀ copy, (c.take r).1 = .changed copy →
      (e.sampled answer helper).needsRestart = false) :
    c.count / c.threshold + (e.respond answer helper (c.take r).1).1.toList.length =
      (c.take r).2.count / c.threshold + if r.read.isNone then 1 else 0 := by
  match htake : c.take r, c.taken_take r with
  | _, .failed hread => simp [respond, report, hread, CopyCounter.seen]
  | _, .empty hread => simp [respond, hread, CopyCounter.seen]
  | _, .known text htext _ =>
    simp [respond, (Reading.text?_eq_some_iff.mp htext).1, CopyCounter.seen]
  | _, .copied text htext _ =>
    have hhealthy : (e.carryOut answer (probe helper)).1.needsRestart = false :=
      hhealthy _ (congrArg Prod.fst htake)
    have hdue : (c.copyOf r text).resetDue = true ↔ c.threshold ∣ c.count + 1 := by
      simp [CopyCounter.copyOf, Nat.dvd_iff_mod_eq_zero]
    have hcount : (c.counted r text).count = c.count + 1 := rfl
    simp only [respond, hhealthy, Bool.false_eq_true, if_false, hcount, Nat.succ_div,
      (Reading.text?_eq_some_iff.mp htext).1, Option.isNone_some]
    by_cases hdvd : c.threshold ∣ c.count + 1
    · rw [if_pos (hdue.mpr hdvd), if_pos hdvd]
      rfl
    · rw [if_neg (fun h => hdvd (hdue.mp h)), if_neg hdvd]
      rfl

end Engine

/-! ### Rows of ticks -/

/-- The number of failed readings among ticks of polling. -/
def Watchdog.failedReadings (w : Watchdog σ) (ticks : List (Clock × Observation)) : ℕ :=
  ticks.countP fun t => (w.reading t.2).read.isNone

namespace Watchdog

variable (w : Watchdog σ)

/-- The scene after a row of ticks of polling, each at the time that its clock shows. -/
def polled (s : Scene σ Watch) (ticks : List (Clock × Observation)) : Scene σ Watch :=
  w.after s (ticks.map fun t => (t.1, .poll t.2))

/-- What a watchdog that has only polled has counted. -/
def counted (ticks : List (Clock × Observation)) : CopyCounter :=
  .observed w.config.resetThreshold (ticks.map fun t => w.reading t.2)

/-- The outcome of a tick after others. -/
def outcome (past : List (Clock × Observation)) (t : Clock × Observation) : PollOutcome :=
  ((w.counted past).take (w.reading t.2)).1

lemma counted_concat (past : List (Clock × Observation)) (t : Clock × Observation) :
    w.counted (past ++ [t]) = ((w.counted past).take (w.reading t.2)).2 := by
  simp [counted, CopyCounter.observed_concat]

lemma remembers_counted (past : List (Clock × Observation)) :
    CopyCounter.Remembers w.config.resetThreshold (past.map fun t => w.reading t.2)
      (w.counted past) :=
  CopyCounter.remembers_observed _ _

lemma polled_concat (s : Scene σ Watch) (past : List (Clock × Observation))
    (t : Clock × Observation) :
    w.polled s (past ++ [t]) = ((w.pollOnce t.2).run.run ((w.polled s past).withClock t.1)).2 := by
  unfold polled
  rw [List.map_append, List.map_singleton, after_concat, next_poll]

/-- The state of a watchdog that has only polled: its engine is free, its monitor has counted, and
no session is attached. -/
structure HasPolled (w : Watchdog σ) (past : List (Clock × Observation)) (s : Scene σ Watch) :
    Prop where
  free : s.engine.busy = false
  monitor : s.around.monitor = { counter := w.counted past }
  session : s.around.journal.session = none

variable {w} {past : List (Clock × Observation)} {s : Scene σ Watch}

lemma HasPolled.at (h : w.HasPolled past s) (clock : Clock) :
    (s.withClock clock).At s.engine { counter := w.counted past } clock :=
  ⟨rfl, h.monitor, rfl, h.session⟩

lemma HasPolled.of_at {e : Engine σ} {clock : Clock} (he : e.busy = false)
    (h : s.At e { counter := w.counted past } clock) : w.HasPolled past s :=
  ⟨h.engine ▸ he, h.monitor, h.session⟩

/-- What a tick comes to whose clock can be read. -/
lemma HasPolled.run_pollOnce (h : w.HasPolled past s) (hhost : w.host = .plain answer)
    (hw : w.IsHeard) {t : Clock × Observation} {now : Moment} (hread : t.1.read = .ok now) :
    let response := s.engine.respond answer w.config.helper (w.outcome past t)
    let r := (w.pollOnce t.2).run.run (s.withClock t.1)
    r.1 = .ok (response.1.map .completed) ∧ r.2.engine = response.2 ∧
      w.HasPolled (past ++ [t]) r.2 := by
  intro response r
  obtain ⟨asked, s', hrun, rfl, hs'⟩ :=
    completes_pollOnce hhost hw hread h.free t.2 _ (h.at t.1)
  have hr : r = (.ok (response.1.map .completed), s') := hrun
  have hat : s'.At response.2 { counter := w.counted (past ++ [t]) } t.1 := by
    rw [counted_concat]
    exact hs'
  rw [hr]
  exact ⟨rfl, hs'.engine, .of_at ((Engine.responded_respond ..).busy h.free) hat⟩

/-- What a tick comes to whose clock cannot be read. -/
lemma HasPolled.run_pollOnce_of_error (h : w.HasPolled past s) {t : Clock × Observation}
    {cause : ClockFault} (hread : t.1.read = .error cause) :
    let r := (w.pollOnce t.2).run.run (s.withClock t.1)
    (∀ asked, r.1 = .ok asked → asked = none) ∧ r.2.engine = s.engine ∧
      w.HasPolled (past ++ [t]) r.2 := by
  intro r
  obtain ⟨hs', hasked⟩ := Watchdog.run_pollOnce_of_error hread (h.at t.1) t.2
  have hat : r.2.At s.engine { counter := w.counted (past ++ [t]) } t.1 := by
    rw [counted_concat]
    exact hs'
  exact ⟨hasked, hs'.engine, .of_at h.free hat⟩

/-- Polling leaves the engine free and no session attached, and what it counts is told by the
readings. -/
lemma hasPolled_polled (hhost : w.host = .plain answer) (hw : w.IsHeard) (host : σ) (disk : Disk)
    (clock : Clock) (ticks : List (Clock × Observation)) :
    w.HasPolled ticks (w.polled (w.opening host disk clock) ticks) := by
  induction ticks using List.reverseRecOn with
  | nil => exact ⟨rfl, rfl, rfl⟩
  | append_singleton past t ih =>
    rw [polled_concat]
    cases hread : t.1.read with
    | ok now => exact (ih.run_pollOnce hhost hw hread).2.2
    | error cause => exact (ih.run_pollOnce_of_error hread).2.2

/-- At every copy that polling counts, the helper shows that it needs no restart. -/
def StaysHealthy (w : Watchdog σ) (answer : (c : Call) → σ → c.Answer × σ) (s : Scene σ Watch)
    (ticks : List (Clock × Observation)) : Prop :=
  ∀ past t later, ticks = past ++ t :: later → ∀ copy, w.outcome past t = .changed copy →
    ((w.polled s past).engine.sampled answer w.config.helper).needsRestart = false

lemma StaysHealthy.of_concat {t : Clock × Observation}
    (h : w.StaysHealthy answer s (past ++ [t])) : w.StaysHealthy answer s past := by
  rintro front u later rfl
  exact h front u (later ++ [t]) (by simp)

lemma failedReadings_concat (t : Clock × Observation) :
    w.failedReadings (past ++ [t]) =
      w.failedReadings past + if (w.reading t.2).read.isNone then 1 else 0 := by
  simp [failedReadings, List.countP_append, List.countP_singleton]

/-- The resets of a watchdog that has found its helper healthy are as many as the multiples of the
threshold among the copies, and the failed readings. -/
lemma runs_polled (hhost : w.host = .plain answer) (hw : w.IsHeard) (host : σ) (disk : Disk)
    (clock : Clock) {ticks : List (Clock × Observation)}
    (hread : ∀ t ∈ ticks, ∃ now, t.1.read = .ok now)
    (hhealthy : w.StaysHealthy answer (w.opening host disk clock) ticks) :
    (w.polled (w.opening host disk clock) ticks).engine.runs =
      (w.counted ticks).count / max w.config.resetThreshold 1 + w.failedReadings ticks := by
  induction ticks using List.reverseRecOn with
  | nil => simp [polled, opening, counted, CopyCounter.observed, CopyCounter.new, failedReadings]
  | append_singleton past t ih =>
    have ih := ih (fun u hu => hread u (List.mem_append_left _ hu)) hhealthy.of_concat
    obtain ⟨now, hnow⟩ := hread t (by simp)
    obtain ⟨-, hengine, -⟩ :=
      (hasPolled_polled hhost hw host disk clock past).run_pollOnce hhost hw hnow
    have hstep := Engine.length_respond_take (c := w.counted past) (r := w.reading t.2)
      (hhealthy past t [] rfl)
    rw [(w.remembers_counted past).threshold] at hstep
    rw [polled_concat, hengine, (Engine.responded_respond ..).runs, ih, counted_concat,
      failedReadings_concat]
    unfold outcome
    omega

end Watchdog

/-- A watchdog of a process table that answers every call at once, whatever troubles it is set up
with. -/
def ProcessTable.answering : Watchdog ProcessTable :=
  { ProcessTable.watchdog 5 with host := .plain fun c t => t.answer c }

/-- A helper in good health. -/
def ProcessTable.sound : ProcessTable where
  live := [⟨10, none, 20971520, 8388608, 250, 5, true, ⟨60, 0⟩⟩]
  found := [10]
  launch := .starts ⟨9000, none, 20971520, 8388608, 250, 5, true, ⟨60, 0⟩⟩ false false

/-- A look at a clipboard with a text, at a time that can be read. -/
def textTick : Clock × Observation := (⟨⟨1773047107, 0⟩⟩, ⟨1, [], .answered (.ok "a"), 1⟩)

/-- A look at a clipboard that does not answer. -/
def hungTick (seconds : Int) : Clock × Observation := (⟨⟨seconds, 0⟩⟩, ⟨1, [], .hung, 1⟩)

namespace Watchdog

open ProcessTable

end Watchdog

end ClipboardWatchdog
