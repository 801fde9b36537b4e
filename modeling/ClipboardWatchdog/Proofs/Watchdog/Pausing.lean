import ClipboardWatchdog.Proofs.Watchdog.Serving
import ClipboardWatchdog.Proofs.Watchdog.Suspending

/-!
# When polling is suspended

Polling ought to be suspended exactly while a manual reset is under way. `paused_iff` says when it
is. In the course of a reset it is so from where the reset began until the first request comes back
that the host makes meanwhile, because dropping a request resumes polling. After a run it is so if
an activity has ended where a fault left a manual reset, and no manual reset has come back since.
-/

namespace ClipboardWatchdog

variable {σ α β : Type}

/-! ### Places in a row -/

/-- A place in a row that is one longer is the last one, or a place before that. -/
lemma exists_split_concat_iff {l : List α} {a : α} {P : List α → α → List α → Prop} :
    (∃ front x back, l ++ [a] = front ++ x :: back ∧ P front x back) ↔
      P l a [] ∨ ∃ front x back, l = front ++ x :: back ∧ P front x (back ++ [a]) := by
  constructor
  · rintro ⟨front, x, back, heq, h⟩
    cases back using List.reverseRecOn with
    | nil =>
      obtain ⟨rfl, hx⟩ := List.append_inj' heq rfl
      obtain rfl := List.singleton_inj.mp hx
      exact .inl h
    | append_singleton back last =>
      rw [← List.cons_append, ← List.append_assoc] at heq
      obtain ⟨rfl, hlast⟩ := List.append_inj' heq rfl
      obtain rfl := List.singleton_inj.mp hlast
      exact .inr ⟨front, x, back, rfl, h⟩
  · rintro (h | ⟨front, x, back, rfl, h⟩)
    · exact ⟨l, a, [], rfl, h⟩
    · exact ⟨front, x, back ++ [a], by simp, h⟩

lemma forall_split_concat_iff {l : List α} {a : α} {P : List α → α → Prop} :
    (∀ front x back, l ++ [a] = front ++ x :: back → P front x) ↔
      P l a ∧ ∀ front x back, l = front ++ x :: back → P front x := by
  have h := exists_split_concat_iff (l := l) (a := a) (P := fun front x _ => ¬P front x)
  simpa only [not_exists, not_and, not_not, not_or] using not_congr h

namespace Watchdog

/-! ### Work in whose course a manual reset may be left -/

/-- A suspension lasts in the course of the work, unless a manual reset is left. -/
def Respects (w : Watchdog σ) (s₀ : Scene σ Watch) (a : Work σ α) : Prop :=
  Ends s₀.Lasts a (fun _ => s₀.Lasts) fun _ => w.LastsOrLeft s₀

variable {w : Watchdog σ} {s₀ : Scene σ Watch}

namespace Respects

variable {a b : Work σ α}

lemma of_keeps (h : Keeps s₀.Lasts a) : w.Respects s₀ a :=
  (Ends.of_keeps h).imp (fun _ => id) (fun _ _ => id) fun _ _ => .inl

protected lemma pure (x : α) : w.Respects s₀ (pure x : Work σ α) := of_keeps (.pure x)

protected lemma bind {f : α → Work σ β} (ha : w.Respects s₀ a) (hf : ∀ x, w.Respects s₀ (f x)) :
    w.Respects s₀ (a >>= f) :=
  Ends.bind ha hf

protected lemma ite {p : Prop} [Decidable p] (ha : w.Respects s₀ a) (hb : w.Respects s₀ b) :
    w.Respects s₀ (if p then a else b) :=
  Ends.ite ha hb

/-- However the work ends, a suspension has lasted or a manual reset is left. -/
lemma lastsOrLeft (h : w.Respects s₀ a) {s : Scene σ Watch} (hs : s₀.Lasts s) :
    w.LastsOrLeft s₀ (a.run.run s).2 := by
  have hs' := h s hs
  revert hs'
  rcases a.run.run s with ⟨fault | x, s'⟩
  · exact id
  · exact .inl

end Respects

open Respects

/-! ### Activities -/

lemma respects_health : w.Respects s₀ w.health :=
  ends_lasts_procedure ends_request (fun _ _ => .inl) w.host (probe w.config.helper)

lemma respects_recordHealth : w.Respects s₀ w.recordHealth :=
  respects_health.bind fun _ => (of_keeps .lasts_note).bind fun _ => .pure _

lemma respects_checkHelper (copy : Copy) : w.Respects s₀ (w.checkHelper copy) := by
  refine respects_recordHealth.bind fun _ => .ite ?_ (.ite ?_ (.pure _))
  · exact (of_keeps .lasts_note).bind fun _ => .pure _
  · exact (of_keeps .lasts_note).bind fun _ => .pure _

lemma respects_lead (poll : Poll) : w.Respects s₀ (w.lead poll) := by
  unfold lead
  split
  · exact of_keeps (Keeps.lasts_note.bind fun _ => Keeps.lasts_clockText.bind fun _ =>
      (Keeps.lasts_say _).bind fun _ => .pure _)
  · exact .pure _
  · exact .pure _
  · next copy _ =>
    have hshow : Keeps s₀.Lasts (w.showCopy copy) :=
      (Keeps.lasts_onStatus _).bind fun _ => Keeps.lasts_emit
    have hrest : w.Respects s₀ (do w.showCopy copy; w.checkHelper copy) :=
      (of_keeps hshow).bind fun _ => respects_checkHelper copy
    exact (of_keeps .lasts_note).bind fun _ =>
      .ite ((of_keeps .lasts_note).bind fun _ => hrest) hrest

lemma respects_pollOnce (o : Observation) : w.Respects s₀ (w.pollOnce o) := by
  rw [pollOnce_eq]
  refine ((of_keeps (Keeps.lasts_tick o)).bind respects_lead).bind fun reason => of_keeps ?_
  cases reason with
  | none => exact .pure _
  | some reason => exact (Keeps.lasts_remediate reason).bind fun _ => .pure _

lemma respects_recordState : w.Respects s₀ w.recordState := by
  have hsection (title : String) :
      w.Respects s₀ (Work.onJournal (·.addSection title) : Work σ Unit) :=
    of_keeps (Keeps.lasts_onWatch fun _ => rfl)
  refine (hsection _).bind fun _ => respects_recordHealth.bind fun _ => ?_
  refine Respects.bind (of_keeps (Keeps.get.bind fun _ => .pure _)) fun _ => ?_
  refine Respects.bind (of_keeps (Keeps.get.bind fun _ => .pure _)) fun _ => ?_
  exact (of_keeps .lasts_note).bind fun _ => (hsection _).bind fun _ => of_keeps .lasts_note

lemma respects_enableDiagnostics : w.Respects s₀ w.enableDiagnostics := by
  have hannounce : Keeps s₀.Lasts w.announceSession :=
    (Keeps.lasts_onStatus _).bind fun _ => Keeps.lasts_emit.bind fun _ => .pure _
  refine Respects.bind (of_keeps (Keeps.get.bind fun _ => .pure _)) fun _ => .ite (.pure _) ?_
  refine (of_keeps Keeps.modeFree_lasts.keeps_openSession).bind fun opened => ?_
  cases opened with
  | error e => exact .pure _
  | ok _ => exact (of_keeps .lasts_note).bind fun _ => respects_recordState.bind fun _ =>
      of_keeps hannounce

lemma respects_start : w.Respects s₀ w.start := by
  have hstart : Keeps s₀.Lasts (Work.onMonitor (·.start) : Work σ Unit) :=
    .lasts_onMonitor fun _ => rfl
  exact (of_keeps .lasts_note).bind fun _ => respects_recordHealth.bind fun _ =>
    (of_keeps hstart).bind fun _ => of_keeps .lasts_emit

lemma respects_shutdown : w.Respects s₀ w.shutdown := by
  have hstop : Keeps s₀.Lasts (Work.onMonitor (·.stop) : Work σ Unit) :=
    .lasts_onMonitor fun _ => rfl
  exact of_keeps (hstop.bind fun _ => Keeps.modeFree_lasts.keeps_disableDiagnostics)

/-- A tick in the background that is broken off ends where the fault has struck. -/
lemma lastsOrLeft_turn (o : Observation) : w.LastsOrLeft s₀ ((w.turn o).run.run s₀).2 := by
  unfold turn
  rw [run_watch_bind]
  split
  · have htick : w.Respects s₀ (do let _ ← w.pollOnce o) :=
      (respects_pollOnce o).bind fun _ => .pure _
    have hend := htick.lastsOrLeft (.refl s₀)
    rw [run_run_tryCatch]
    revert hend
    rcases (do let _ ← w.pollOnce o : Work σ Unit).run.run s₀ with ⟨fault | _, s'⟩ <;> exact id
  · exact .inl (.refl s₀)

variable (w)

/-- A suspension lasts in the course of an activity that is not a manual reset itself, unless one is
left. -/
lemma lastsOrLeft_serve (s : Scene σ Watch) (clock : Clock) {activity : Activity}
    (h : activity ≠ .operation .reset) :
    w.LastsOrLeft (s.withClock clock) (w.serve s (clock, activity)) := by
  let s₀ := s.withClock clock
  have hundertake (h : w.Respects s₀ (w.undertake activity)) :
      w.LastsOrLeft s₀ (w.serve s (clock, activity)) :=
    h.lastsOrLeft (.refl s₀)
  cases activity with
  | operation op =>
    cases op with
    | poll o => exact hundertake ((respects_pollOnce o).bind fun _ => .pure _)
    | notify n latency =>
      have hmode : w.ModeFree s₀.Lasts := Keeps.modeFree_lasts
      exact hundertake (of_keeps (hmode.keeps_onNotification n latency))
    | reset => exact absurd rfl h
    | enable => exact hundertake (respects_enableDiagnostics.bind fun _ => .pure _)
    | disable => exact hundertake (of_keeps Keeps.modeFree_lasts.keeps_disableDiagnostics)
    | shutdown => exact hundertake respects_shutdown
  | start => exact hundertake respects_start
  | health => exact hundertake (respects_health.bind fun _ => .pure _)
  | turn o => exact lastsOrLeft_turn o

/-! ### Runs -/

/-- A manual reset comes back in the course of an activity, be it one that the user asks for or one
that the host asks for. -/
def ComesBack (s : Scene σ Watch) (step : Clock × Activity) : Prop :=
  step.2 = .operation .reset ∧
      (∃ outcome, (w.resetManually.run.run (s.withClock step.1)).1 = .ok outcome) ∨
    (w.serve s step).engine.requests ≠ s.engine.requests

/-- An activity ends where a fault leaves a manual reset that was put on record, and no request has
come back since that began. -/
def LeavesPaused (s : Scene σ Watch) (step : Clock × Activity) : Prop :=
  ∃ t, (s.withClock step.1).Lasts t ∧ w.LeftAt t (w.serve s step) ∧
    (w.serve s step).engine.requests = t.engine.requests

variable {w}

lemma LeavesPaused.paused {s : Scene σ Watch} {step : Clock × Activity}
    (h : w.LeavesPaused s step) : (w.serve s step).isPaused = true := by
  obtain ⟨t, -, hleft, hrequests⟩ := h
  exact hleft.visits_paused.2.mpr hrequests

variable (w)

/-- An activity is a manual reset that comes back, or else a suspension has lasted in its course or
a manual reset is left. -/
lemma serve_cases (s : Scene σ Watch) (step : Clock × Activity) :
    (w.serve s step).isPaused = false ∧ w.ComesBack s step ∨
      w.LastsOrLeft (s.withClock step.1) (w.serve s step) ∧
        (w.ComesBack s step ↔ (w.serve s step).engine.requests ≠ s.engine.requests) := by
  obtain ⟨clock, activity⟩ := step
  by_cases h : activity = .operation .reset
  · subst h
    have hserve : w.serve s (clock, .operation .reset) =
        (w.resetManually.run.run (s.withClock clock)).2 := w.next_reset s clock
    have hend := ends_resetManually (w := w) (s.withClock clock) (.refl _)
    rw [hserve]
    unfold ComesBack
    rw [hserve]
    revert hend
    rcases w.resetManually.run.run (s.withClock clock) with ⟨fault | outcome, s'⟩
    · exact fun hend => .inr ⟨hend, by simp⟩
    · exact fun hend => .inl ⟨hend.paused, .inl ⟨rfl, outcome, rfl⟩⟩
  · exact .inr ⟨w.lastsOrLeft_serve s clock h, by simp [ComesBack, h]⟩

/-- A suspension is kept by an activity in which no manual reset comes back, and an activity may
leave one. -/
lemma paused_serve_iff (s : Scene σ Watch) (step : Clock × Activity) :
    (w.serve s step).isPaused = true ↔
      w.LeavesPaused s step ∨ s.isPaused = true ∧ ¬w.ComesBack s step := by
  rcases w.serve_cases s step with ⟨hpaused, hback⟩ | ⟨hlasts | ⟨t, hst, hleft⟩, hback⟩
  · refine ⟨fun h => ?_, fun h => h.elim LeavesPaused.paused fun h => absurd hback h.2⟩
    rw [hpaused] at h
    cases h
  · rw [hback, not_not]
    refine ⟨fun h => .inr (hlasts.paused.mp h), fun h => ?_⟩
    exact h.elim LeavesPaused.paused hlasts.paused.mpr
  · obtain ⟨hvisits, hpaused⟩ := hleft.visits_paused
    refine ⟨fun h => .inl ⟨t, hst, hleft, hpaused.mp h⟩, fun h => h.elim LeavesPaused.paused ?_⟩
    rintro ⟨-, hnone⟩
    rw [hback, not_not] at hnone
    -- no request has come back in the whole activity, and so none since the reset began
    have hbefore : s.engine.requests ≤ t.engine.requests := Scene.requests_le hst.visits
    have hsince := Scene.requests_le hvisits
    exact hpaused.mpr (by omega)

/-- After a run polling is suspended exactly if an activity has left it so, and no manual reset has
come back since. -/
lemma paused_served_iff {start : Scene σ Watch} (h : start.isPaused = false)
    (steps : List (Clock × Activity)) :
    (w.served start steps).isPaused = true ↔
      ∃ earlier step later, steps = earlier ++ step :: later ∧
        w.LeavesPaused (w.served start earlier) step ∧
        ∀ past step' rest, later = past ++ step' :: rest →
          ¬w.ComesBack (w.served start (earlier ++ step :: past)) step' := by
  induction steps using List.reverseRecOn with
  | nil =>
    have hstart : (w.served start []).isPaused = false := h
    simp [hstart]
  | append_singleton steps last ih =>
    rw [served_concat, paused_serve_iff, ih, exists_split_concat_iff]
    constructor
    · rintro (hleaves | ⟨⟨earlier, step, later, rfl, hleaves, hlater⟩, hlast⟩)
      · exact .inl ⟨hleaves, by simp⟩
      · exact .inr ⟨earlier, step, later, rfl, hleaves,
          forall_split_concat_iff.mpr ⟨hlast, hlater⟩⟩
    · rintro (⟨hleaves, -⟩ | ⟨earlier, step, later, rfl, hleaves, hlater⟩)
      · exact .inl hleaves
      · obtain ⟨hlast, hlater⟩ := forall_split_concat_iff.mp hlater
        exact .inr ⟨⟨earlier, step, later, rfl, hleaves, hlater⟩, hlast⟩

/-- When polling is suspended. Wherever the host is at work on a reset, it is if it was when the
reset began and no request has come back since; a manual reset begins with polling suspended. After
a run it is if an activity has ended where a fault left a manual reset, before any request had come
back in its course, and no manual reset has come back since. -/
theorem paused_iff (host : σ) (disk : Disk) (clock : Clock) (steps : List (Clock × Activity)) :
    let start := w.opening host disk clock
    (∀ (s : Scene σ Watch) (reason : Reason),
      ∀ t ∈ (restart w.config.helper reason).stages w.host w.request s.taken,
        t.isPaused = true ↔ s.isPaused = true ∧ t.engine.requests = s.engine.requests) ∧
    (∀ s : Scene σ Watch, s.around.journal.TakesRecords → ∃ begun : Scene σ Watch,
      begun.engine = s.engine ∧ begun.isPaused = true ∧
        w.resetManually.run.run s = w.finishReset.run.run begun ∧
        ∀ t ∈ (restart w.config.helper .manual).stages w.host w.request begun.taken,
          t.isPaused = true ↔ t.engine.requests = s.engine.requests) ∧
    ((w.served start steps).isPaused = true ↔
      ∃ earlier step later, steps = earlier ++ step :: later ∧
        w.LeavesPaused (w.served start earlier) step ∧
        ∀ past step' rest, later = past ++ step' :: rest →
          ¬w.ComesBack (w.served start (earlier ++ step :: past)) step') := by
  intro start
  have hstages (s : Scene σ Watch) (reason : Reason) (t : Scene σ Watch)
      (ht : t ∈ (restart w.config.helper reason).stages w.host w.request s.taken) : s.Lasts t :=
    lasts_of_mem ends_request (fun _ _ => .inl) _ (Scene.Lasts.refl s).taken ht
  refine ⟨fun s reason t ht => (hstages s reason t ht).paused, fun s htakes => ?_,
    w.paused_served_iff rfl steps⟩
  obtain ⟨begun, hengine, hpaused, hrun⟩ := exists_begun (w := w) htakes
  refine ⟨begun, hengine, hpaused, hrun, fun t ht => ?_⟩
  rw [(hstages begun .manual t ht).paused, hengine]
  exact and_iff_right hpaused

/-- A table whose helper can be restarted, with a clock that then gives no time of day to tell of
it. -/
theorem paused_iff_untold :
    let w := ProcessTable.watchdog 5
    let clock : Clock := ⟨⟨-1, 0⟩⟩
    let helper : Sample := ⟨9000, none, 0, 0, 0, 0, true, .zero⟩
    let start := w.opening { launch := .starts helper false false } .empty clock
    start.around.journal.TakesRecords ∧
      (∃ begun : Scene ProcessTable Watch, begun.engine = start.engine ∧ begun.isPaused = true ∧
        w.resetManually.run.run start = w.finishReset.run.run begun) ∧
      ∃ earlier step later, [(clock, .operation .reset)] = earlier ++ step :: later ∧
        w.LeavesPaused (w.served start earlier) step := by
  intro w clock helper start
  have htakes : start.around.journal.TakesRecords := Journal.takesRecords_of_not_recording rfl
  obtain ⟨-, hmanual, hrun⟩ := w.paused_iff { launch := .starts helper false false } .empty clock
    [(clock, .operation .reset)]
  obtain ⟨begun, hengine, hpaused, hbegun, -⟩ := hmanual start htakes
  have hleft : (w.served start [(clock, .operation .reset)]).isPaused = true := by decide +kernel
  obtain ⟨earlier, step, later, hsteps, hleaves, -⟩ := hrun.mp hleft
  exact ⟨htakes, ⟨begun, hengine, hpaused, hbegun⟩, earlier, step, later, hsteps, hleaves⟩

/-- The host asks for a reset in the course of a manual one, and polling is resumed while that goes
on. And a clock that gives no time of day for the message leaves polling suspended for good. -/
theorem paused_apart_from_manual_resets :
    let w := ProcessTable.watchdog 5
    let clock : Clock := ⟨⟨1773047107, 0⟩⟩
    let asking := w.opening ProcessTable.asking .empty clock
    let begun := ((leadReset : Work ProcessTable Unit).run.run asking).2
    let helper : Sample := ⟨10, none, 0, 0, 0, 0, true, .zero⟩
    let table : ProcessTable :=
      { live := [helper], found := [10], launch := .starts { helper with pid := 9000 } false false }
    let left := w.serve (w.opening table .empty clock) (⟨⟨-1, 0⟩⟩, .operation .reset)
    let copied : Observation := ⟨1, [], .answered (.ok "a"), 1⟩
    (∃ t ∈ (restart w.config.helper .manual).stages w.host w.request begun.taken,
      t.isPaused = false) ∧
    left.isPaused = true ∧
    (w.served left [(clock, .start), (clock, .turn copied)]).around.monitor.counter.count = 0 := by
  decide +kernel

end Watchdog

end ClipboardWatchdog
