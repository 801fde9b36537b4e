import ClipboardWatchdog.Proofs.Watchdog.PollingResets
import ClipboardWatchdog.Proofs.Watchdog.Showing
import Mathlib.Data.List.Induction

/-!
# Whether the status shows what was counted

The receiver of the status takes what it is handed. After any row of operations, the last thing that
it was handed is the status as it is. What the status shows of the copies and of the resets is what
was counted, with one exception: if the clock cannot be read, an operation may be broken off between
counting and showing, and the number that it raised stays hidden until it is raised again. The
numbers never fall.
-/

namespace ClipboardWatchdog

variable {σ : Type}

/-- The tally of a scene. -/
def Scene.tally (s : Scene σ Watch) : Tally where
  count := s.around.monitor.counter.count
  copies := s.around.status.copies
  runs := s.engine.runs
  resets := s.around.status.resets

/-- Between two operations the engine is free, and the receiver was told. -/
structure Scene.AtRest (s : Scene σ Watch) : Prop where
  free : s.engine.busy = false
  told : s.around.IsTold

namespace Scene

variable {s : Scene σ Watch} {c : Clock} {t : Tally}

lemma AtRest.stands (h : s.AtRest) (htakes : (s.withClock c).around.journal.TakesRecords) :
    (s.withClock c).Stands c s.tally :=
  ⟨h.free, rfl, rfl, htakes, rfl, rfl, rfl, h.told⟩

lemma Stands.atRest (h : s.Stands c t) : s.AtRest := ⟨h.free, h.watch.told⟩

lemma Stands.tally (h : s.Stands c t) : s.tally = t := by
  obtain ⟨-, hruns, hwatch⟩ := h
  cases t
  simp only [Scene.tally, hruns, hwatch.count, hwatch.copies, hwatch.resets]

lemma Idle.atRest {s' : Scene σ Watch} (h : s.Idle s') (hs : s.AtRest) : s'.AtRest where
  free := (congrArg Engine.busy h.engine).trans hs.free
  told := by
    rw [Watch.IsTold, h.deliveries, h.status]
    exact hs.told

lemma Idle.tally {s' : Scene σ Watch} (h : s.Idle s') : s'.tally = s.tally := by
  simp only [Scene.tally, h.engine, h.counter, h.status]

end Scene

/-! ### One operation -/

/-- What one operation makes of a number and of what is shown of it. Both stay, or the number was
raised: it is shown then, unless the operation has stalled. -/
inductive Moves (stalled : Prop) (n m : ℕ) : ℕ → ℕ → Prop
  | stays : Moves stalled n m n m
  | shown {n' : ℕ} (hn : n < n') (h : ¬stalled) : Moves stalled n m n' n'
  | hidden {n' : ℕ} (hn : n < n') (h : stalled) : Moves stalled n m n' m

lemma moves_iff {stalled : Prop} {n m n' m' : ℕ} :
    Moves stalled n m n' m' ↔
      n' = n ∧ m' = m ∨ n < n' ∧ m' = n' ∧ ¬stalled ∨ n < n' ∧ m' = m ∧ stalled := by
  constructor
  · intro h
    cases h with
    | stays => exact .inl ⟨rfl, rfl⟩
    | shown hn h => exact .inr (.inl ⟨hn, rfl, h⟩)
    | hidden hn h => exact .inr (.inr ⟨hn, rfl, h⟩)
  · rintro (⟨rfl, rfl⟩ | ⟨hn, rfl, h⟩ | ⟨hn, rfl, h⟩)
    · exact .stays
    · exact .shown hn h
    · exact .hidden hn h

lemma Moves.of_leads {stalled : Prop} {n m n' m' : ℕ} (hstalled : ¬stalled)
    (h : n' = n ∧ m' = m ∨ n < n' ∧ m' = n') : Moves stalled n m n' m' := by
  rcases h with ⟨rfl, rfl⟩ | ⟨hn, rfl⟩
  · exact .stays
  · exact .shown hn hstalled

lemma Moves.le {stalled : Prop} {n m n' m' : ℕ} (h : Moves stalled n m n' m') : n ≤ n' := by
  cases h with
  | stays => exact Nat.le_refl n
  | shown hn _ => exact Nat.le_of_lt hn
  | hidden hn _ => exact Nat.le_of_lt hn

/-- What one operation makes of a tally. -/
structure Tally.Moves (stalled : Prop) (t t' : Tally) : Prop where
  copies : ClipboardWatchdog.Moves stalled t.count t.copies t'.count t'.copies
  resets : ClipboardWatchdog.Moves stalled t.runs t.resets t'.runs t'.resets

lemma Tally.Leads.moves {t t' : Tally} (h : t.Leads t') {stalled : Prop} (hstalled : ¬stalled) :
    t.Moves stalled t' :=
  ⟨.of_leads hstalled h.copies, .of_leads hstalled h.resets⟩

namespace Watchdog

variable (w : Watchdog σ)

/-- An operation is broken off because the clock cannot be read. -/
def StallsAt (s : Scene σ Watch) (step : Clock × Operation) : Prop :=
  ∃ cause, step.1.read = .error cause ∧
    ((w.perform step.2).run.run (s.withClock step.1)).1 = .error (.clock cause)

variable {w} (hw : w.receiver = some fun _ => none) {s : Scene σ Watch} {c : Clock} {t : Tally}

include hw

/-- With a clock that can be read, every operation shows what it has counted. -/
lemma keeps_standsAfter_perform {now : Moment} (hread : c.read = .ok now) (op : Operation) :
    Keeps (Scene.StandsAfter c t) (w.perform op) := by
  have hmode : w.ModeFree (Scene.StandsAfter c t) := Keeps.modeFree_standsAfter hread hw
  cases op with
  | poll o => exact (Keeps.standsAfter_pollOnce hread hw o).bind fun _ => .pure _
  | notify n latency => exact hmode.keeps_onNotification n latency
  | reset => exact (Keeps.standsAfter_resetManually hread hw).bind fun _ => .pure _
  | enable =>
    have hhealth : Keeps (Scene.StandsAfter c t) w.recordHealth :=
      Keeps.standsAfter_recordHealth hread hw
    exact (hmode.keeps_enableDiagnostics hhealth).bind fun _ => .pure _
  | disable => exact hmode.keeps_disableDiagnostics
  | shutdown =>
    refine Keeps.bind ?_ fun _ => hmode.keeps_disableDiagnostics
    exact .standsAfter_of_stands fun _ =>
      (Ends.stands_onMonitor (·.stop) fun _ => rfl).of_sure.keeps

lemma next_of_read {step : Clock × Operation} {now : Moment} (hread : step.1.read = .ok now)
    (hs : s.AtRest) : (w.next s step).AtRest ∧ s.tally.Leads (w.next s step).tally := by
  have htakes : (s.withClock step.1).around.journal.TakesRecords :=
    Journal.takesRecords_of_read hread
  obtain ⟨t, hlead, ht⟩ := keeps_standsAfter_perform hw hread step.2 _ (hs.stands htakes).after
  have htally : (w.next s step).tally = t := ht.tally
  exact ⟨ht.atRest, htally ▸ hlead⟩

omit hw in
/-- Without a clock that can be read, a tick hides the copy that it counts. -/
lemma moves_poll {clock : Clock} {cause : ClockFault} (hread : clock.read = .error cause)
    (hs : s.AtRest) (o : Observation) :
    let s' := w.next s (clock, .poll o)
    s'.AtRest ∧ s.tally.Moves (w.StallsAt s (clock, .poll o)) s'.tally := by
  intro s'
  obtain ⟨hresult, hidle⟩ := w.run_pollOnce_of_unreadable (s := s.withClock clock) hread o
  rw [← next_poll] at hidle
  have htold : (w.told (s.withClock clock) o).AtRest := ⟨hs.free, hs.told⟩
  refine ⟨hidle.atRest htold, ?_⟩
  rw [hidle.tally]
  let told := s.around.monitor.counter.take (w.reading o)
  have htally : (w.told (s.withClock clock) o).tally = { s.tally with count := told.2.count } := rfl
  rw [htally]
  rcases s.around.monitor.counter.count_take (w.reading o) with
    ⟨copy, hcopy, -, hcount⟩ | ⟨-, hcount⟩
  · have hstalls : w.StallsAt s (clock, .poll o) := by
      refine ⟨cause, hread, ?_⟩
      rw [perform, run_discard, hresult]
      change (unreadableTick cause told.1).map (fun _ => ()) = _
      rw [hcopy]
      rfl
    refine ⟨.hidden ?_ hstalls, .stays⟩
    exact lt_of_lt_of_eq (Nat.lt_succ_self _) hcount.symm
  · rw [hcount]
    exact ⟨.stays, .stays⟩

/-- Without a clock that can be read, a reset that is completed is shown, unless there is no time of
day for its message. -/
lemma moves_reset {clock : Clock} {cause : ClockFault} (hread : clock.read = .error cause)
    (hs : s.AtRest) :
    let s' := w.next s (clock, .reset)
    s'.AtRest ∧ s.tally.Moves (w.StallsAt s (clock, .reset)) s'.tally := by
  intro s'
  cases hr : s.around.journal.isRecording with
  | true =>
    have hstep : (clock, Operation.reset).1.read = .error cause := hread
    have hidle : (s.withClock clock).Idle s' :=
      w.idle_next hstep (fun _ h => by cases h) fun _ => hr
    refine ⟨hidle.atRest ⟨hs.free, hs.told⟩, ?_⟩
    rw [hidle.tally]
    exact ⟨.stays, .stays⟩
  | false =>
    have hstands := hs.stands (c := clock) (Journal.takesRecords_of_not_recording hr)
    have hends := Ends.stands_resetManually hw (s.withClock clock) hstands
    have hs' : s' = (w.resetManually.run.run (s.withClock clock)).2 := w.next_reset s clock
    have hstalls : w.StallsAt s (clock, .reset) ↔ ∃ cause, clock.read = .error cause ∧
        (w.resetManually.run.run (s.withClock clock)).1 = .error (.clock cause) := by
      simp only [StallsAt, perform, run_discard]
      cases (w.resetManually.run.run (s.withClock clock)).1 <;> simp [Except.map]
    rw [hs', hstalls]
    revert hends
    rcases w.resetManually.run.run (s.withClock clock) with ⟨fault | outcome, t⟩
    · rintro ⟨ht, cause', hcause, rfl⟩
      refine ⟨ht.atRest, ?_⟩
      rw [ht.tally]
      exact ⟨.stays, .hidden (Nat.lt_succ_self _) ⟨cause', hcause, rfl⟩⟩
    · intro ht
      have hnot : ¬∃ cause, clock.read = .error cause ∧
          (.ok outcome : Except Fault Outcome) = .error (.clock cause) := by simp
      rcases ht with ht | ht
      · refine ⟨ht.atRest, ?_⟩
        rw [ht.tally]
        exact (Tally.Leads.reset s.tally).moves hnot
      · refine ⟨ht.atRest, ?_⟩
        rw [ht.tally]
        exact ⟨.stays, .stays⟩

/-- Every operation leaves the watchdog at rest. It shows what it has counted, unless it stalls. -/
lemma moves_next (hs : s.AtRest) (step : Clock × Operation) :
    (w.next s step).AtRest ∧ s.tally.Moves (w.StallsAt s step) (w.next s step).tally := by
  cases hread : step.1.read with
  | ok now =>
    obtain ⟨hrest, hleads⟩ := next_of_read hw hread hs
    refine ⟨hrest, hleads.moves ?_⟩
    rintro ⟨cause, hcause, -⟩
    cases hread.symm.trans hcause
  | error cause =>
    obtain ⟨clock, op⟩ := step
    have hstays (hidle : (s.withClock clock).Idle (w.next s (clock, op))) :
        (w.next s (clock, op)).AtRest ∧
          s.tally.Moves (w.StallsAt s (clock, op)) (w.next s (clock, op)).tally := by
      refine ⟨hidle.atRest ⟨hs.free, hs.told⟩, ?_⟩
      rw [hidle.tally]
      exact ⟨.stays, .stays⟩
    cases op with
    | poll o => exact moves_poll hread hs o
    | reset => exact moves_reset hw hread hs
    | _ => exact hstays (w.idle_next hread (fun _ h => by cases h) fun h => by cases h)

/-! ### Rows of operations -/

omit hw in
/-- After these operations a number has not been raised since one that raised it and stalled. -/
def Hides (w : Watchdog σ) (start : Scene σ Watch) (steps : List (Clock × Operation))
    (number : Tally → ℕ) : Prop :=
  ∃ earlier step later, steps = earlier ++ step :: later ∧
    w.StallsAt (w.after start earlier) step ∧
    number (w.after start earlier).tally < number (w.after start (earlier ++ [step])).tally ∧
    number (w.after start steps).tally = number (w.after start (earlier ++ [step])).tally

lemma atRest_after {start : Scene σ Watch} (h : start.AtRest) (steps : List (Clock × Operation)) :
    (w.after start steps).AtRest := by
  induction steps using List.reverseRecOn with
  | nil => exact h
  | append_singleton past step ih =>
    rw [after_concat]
    exact (moves_next hw ih step).1

omit hw in
section

variable {start : Scene σ Watch} {number shown : Tally → ℕ}
  (hmoves : ∀ past step, Moves (w.StallsAt (w.after start past) step)
    (number (w.after start past).tally) (shown (w.after start past).tally)
    (number (w.after start (past ++ [step])).tally)
    (shown (w.after start (past ++ [step])).tally))

include hmoves

/-- A number that only moves as described never falls. -/
lemma number_le_after (earlier later : List (Clock × Operation)) :
    number (w.after start earlier).tally ≤ number (w.after start (earlier ++ later)).tally := by
  induction later using List.reverseRecOn with
  | nil => simp
  | append_singleton later step ih =>
    rw [← List.append_assoc]
    exact Nat.le_trans ih (hmoves _ _).le

/-- A number is hidden by the last operation, or by one before if the last has not raised it. -/
lemma hides_concat_iff (past : List (Clock × Operation)) (step : Clock × Operation) :
    w.Hides start (past ++ [step]) number ↔
      w.StallsAt (w.after start past) step ∧
          number (w.after start past).tally < number (w.after start (past ++ [step])).tally ∨
        w.Hides start past number ∧
          number (w.after start (past ++ [step])).tally = number (w.after start past).tally := by
  constructor
  · rintro ⟨earlier, raising, later, hsteps, hstalls, hlt, heq⟩
    cases later using List.reverseRecOn with
    | nil =>
      obtain ⟨rfl, hstep⟩ := List.append_inj' hsteps rfl
      obtain rfl := List.singleton_inj.mp hstep
      exact .inl ⟨hstalls, hlt⟩
    | append_singleton later last =>
      rw [← List.cons_append, ← List.append_assoc] at hsteps
      obtain ⟨rfl, -⟩ := List.append_inj' hsteps rfl
      -- the number was raised before the last operation, and it has not fallen since
      have hsince := number_le_after hmoves (earlier ++ [raising]) later
      have hlast := number_le_after hmoves (earlier ++ raising :: later) [step]
      rw [List.append_assoc, List.singleton_append] at hsince
      have hkept := Nat.le_antisymm (heq ▸ hsince) hlast
      exact .inr ⟨⟨earlier, raising, later, rfl, hstalls, hlt, hkept.symm.trans heq⟩, hkept⟩
  · rintro (⟨hstalls, hlt⟩ | ⟨⟨earlier, raising, later, rfl, hstalls, hlt, heq⟩, hkept⟩)
    · exact ⟨past, step, [], rfl, hstalls, hlt, rfl⟩
    · exact ⟨earlier, raising, later ++ [step], by simp, hstalls, hlt, hkept.trans heq⟩

lemma shown_le_after (earlier later : List (Clock × Operation))
    (hle : ∀ past, shown (w.after start past).tally ≤ number (w.after start past).tally) :
    shown (w.after start earlier).tally ≤ shown (w.after start (earlier ++ later)).tally := by
  induction later using List.reverseRecOn with
  | nil => simp
  | append_singleton later step ih =>
    rw [← List.append_assoc]
    refine Nat.le_trans ih ?_
    have hle := hle (earlier ++ later)
    have hnext := moves_iff.mp (hmoves (earlier ++ later) step)
    omega

/-- The number is shown as it is, but for one that an operation has hidden. -/
lemma shown_ne_iff (hstart : shown start.tally = number start.tally)
    (steps : List (Clock × Operation)) :
    shown (w.after start steps).tally ≤ number (w.after start steps).tally ∧
      (shown (w.after start steps).tally ≠ number (w.after start steps).tally ↔
        w.Hides start steps number) := by
  induction steps using List.reverseRecOn with
  | nil => simp [hstart, Hides]
  | append_singleton past step ih =>
    obtain ⟨hle, hiff⟩ := ih
    rw [hides_concat_iff hmoves, ← hiff]
    rcases moves_iff.mp (hmoves past step) with ⟨hn, hm⟩ | ⟨hn, hm, hstalls⟩ | ⟨hn, hm, hstalls⟩
    · rw [hn, hm]
      simp [hle]
    · rw [hm]
      simp [hstalls, Nat.ne_of_gt hn]
    · rw [hm]
      refine ⟨Nat.le_trans hle (Nat.le_of_lt hn), ?_⟩
      simp only [hstalls, hn, and_self, true_or, iff_true]
      exact Nat.ne_of_lt (Nat.lt_of_le_of_lt hle hn)

end

end Watchdog

/-- A watchdog of a process table whose receiver takes what it is handed. -/
def ProcessTable.heard : Watchdog ProcessTable :=
  { ProcessTable.watchdog 5 with receiver := some fun _ => none }

namespace Watchdog

open ProcessTable

end Watchdog

end ClipboardWatchdog
