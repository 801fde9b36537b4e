import ClipboardWatchdog.Proofs.Watchdog.Sessions
import Mathlib.Data.List.Induction

/-!
# The mode that is shown and the mode that is on

Diagnostic mode is on while a session is attached, and the status tells of it. The two are set at
different points, and the host is asked in between. `mode_shown_ne_iff` says exactly when they
disagree: while a session is attached that was left behind by an attempt to enter the mode, broken
off by a fault before the status was set.
-/

namespace ClipboardWatchdog

variable {σ : Type}

/-- The mode that is on and the mode that the status shows. -/
def Watch.mode (w : Watch) : Bool × Bool := (w.journal.isRecording, w.status.diagnostics)

/-- The status shows the mode that is on. -/
def Watch.ShowsMode (w : Watch) : Prop := w.status.diagnostics = w.journal.isRecording

instance (w : Watch) : Decidable w.ShowsMode := inferInstanceAs (Decidable (_ = _))

lemma Watchdog.steady_mode (w : Watchdog σ) (m : Bool × Bool) : w.Steady fun v => v.mode = m where
  monitor _ _ h := h
  status v st hst h := by simpa [Watch.mode, hst] using h
  deliveries _ _ h := h
  record v category message _ h := by simpa [Watch.mode] using h
  addSection v title h := by simpa [Watch.mode] using h

lemma Watch.mode_of_not_recording {w : Watch} (h : w.mode ≠ (false, true))
    (hoff : w.journal.isRecording = false) : w.mode = (false, false) := by
  cases hflag : w.status.diagnostics with
  | false => exact Prod.ext hoff hflag
  | true => exact absurd (Prod.ext hoff hflag) h

namespace Watchdog

variable (w : Watchdog σ)

/-- An attempt to enter the mode is broken off: a fault strikes before the status is set. -/
def BreaksOff (s : Scene σ Watch) (clock : Clock) : Prop :=
  s.around.journal.isRecording = false ∧
    ∃ fault, (w.startSession.run.run (s.withClock clock)).1 = .error fault

/-- What starting a session does once it is attached: the mode stays as it is, and the work ends
well if no fault strikes. -/
lemma mode_of_attached (s : Scene σ Watch) :
    let r := (do w.removeOld; w.recordState; return .ok () :
      Work σ (Except DiskError Unit)).run.run s
    r.2.around.mode = s.around.mode ∧ ∀ e, r.1 ≠ .ok (.error e) := by
  have hmode := w.steady_mode s.around.mode
  constructor
  · exact ((w.keeps_removeOld hmode.toRoutine fun _ _ h => h).bind fun _ =>
      hmode.keeps_recordState.bind fun _ => .pure _) s rfl
  · intro e he
    obtain ⟨_, s₁, -, hstate⟩ := run_bind_eq_ok.mp (Prod.ext he rfl)
    obtain ⟨_, s₂, -, hdone⟩ := run_bind_eq_ok.mp hstate
    cases (Prod.mk.inj hdone).1

/-- Starting a session leaves the status as it is. A session is attached where it was started, and
none where its file could not be made. -/
lemma mode_startSession {s : Scene σ Watch} (h : s.around.journal.isRecording = false) :
    let (result, s') := w.startSession.run.run s
    s'.around.status.diagnostics = s.around.status.diagnostics ∧
      (result = .ok (.ok ()) → s'.around.journal.isRecording = true) ∧
        ∀ e, result = .ok (.error e) → s'.around.journal.isRecording = false := by
  unfold startSession
  rw [run_run_bind, run_openSession_of_not_recording w h]
  dsimp only
  cases (Session.create s.around.journal.disk s.around.journal.clock w.config.origin
    w.config.logDirectory w.config.logBase w.config.role w.config.helper).1 with
  | error e =>
    cases e with
    | disk e => exact ⟨rfl, by simp, fun _ _ => rfl⟩
    | clock fault => exact ⟨rfl, by simp, by simp⟩
  | ok session =>
    dsimp only
    generalize hs : ({ s with around := _ } : Scene σ Watch) = s₁
    have h₁ : s₁.around.mode = (true, s.around.status.diagnostics) := by
      subst hs
      rfl
    obtain ⟨hmode, hne⟩ := w.mode_of_attached s₁
    obtain ⟨hon, hflag⟩ := Prod.mk.inj (hmode.trans h₁)
    exact ⟨hflag, fun _ => hon, fun e he => absurd he (hne e)⟩

/-- What entering the mode comes to where it is off: the status tells of a session that is attached
unless starting it was broken off. -/
lemma mode_enable {s : Scene σ Watch} (h : s.around.mode = (false, false)) (clock : Clock) :
    let w' := (w.next s (clock, .enable)).around
    w'.mode = (false, false) ∨
      w'.mode = (true, false) ∧ w.BreaksOff s clock ∨ w'.mode = (true, true) ∧
        ¬w.BreaksOff s clock := by
  obtain ⟨hr, hf⟩ := Prod.mk.inj h
  have hoff : (s.withClock clock).around.journal.isRecording = false := hr
  have hstart := w.mode_startSession hoff
  rw [next_enable, run_enableDiagnostics_of_not_recording w hoff]
  unfold BreaksOff
  revert hstart
  rcases w.startSession.run.run (s.withClock clock) with ⟨fault | e | ⟨⟩, s'⟩
  · rintro ⟨hflag, -, -⟩
    have hflag : s'.around.status.diagnostics = false := hflag.trans hf
    cases hon : s'.around.journal.isRecording with
    | false => exact .inl (Prod.ext hon hflag)
    | true => exact .inr (.inl ⟨Prod.ext hon hflag, hr, fault, rfl⟩)
  · rintro ⟨hflag, -, hnone⟩
    exact .inl (Prod.ext (hnone e rfl) (hflag.trans hf))
  · rintro ⟨-, hon, -⟩
    obtain ⟨hjournal, hflag⟩ := w.run_announceSession_snd s'
    refine .inr (.inr ⟨Prod.ext ?_ hflag, by simp⟩)
    exact (congrArg Journal.isRecording hjournal).trans (hon rfl)

/-- Every operation but an attempt to enter the mode leaves the mode as it is, or turns it off. -/
lemma mode_next_of_ne_enable (s : Scene σ Watch) (clock : Clock) {op : Operation}
    (hop : op ≠ .enable) :
    (w.next s (clock, op)).around.mode = s.around.mode ∨
      s.around.journal.isRecording = true ∧
        (w.next s (clock, op)).around.mode = (false, false) := by
  have hmode := w.steady_mode s.around.mode
  have hdisable (s' : Scene σ Watch) (h : s'.around.mode = s.around.mode) :
      (w.disableDiagnostics.run.run s').2.around.mode = s.around.mode ∨
        s.around.journal.isRecording = true ∧
          (w.disableDiagnostics.run.run s').2.around.mode = (false, false) := by
    obtain ⟨hr, hf⟩ := Prod.mk.inj h
    cases hon : s'.around.journal.isRecording with
    | false =>
      left
      rw [run_disableDiagnostics_of_not_recording w hon]
      exact h
    | true =>
      rcases run_disableDiagnostics_snd w hon with ⟨hr', hf'⟩ | ⟨hr', hf'⟩
      · left
        rw [Watch.mode, hr', hf', ← hon]
        exact h
      · right
        exact ⟨hr ▸ hon, by rw [Watch.mode, hr', hf']⟩
  cases op with
  | poll o =>
    exact .inl (((hmode.keeps_pollOnce o).bind fun _ => .pure _) (s.withClock clock) rfl)
  | notify n latency =>
    have hnotify : Keeps (fun s' => s'.around.mode = s.around.mode)
        (onNotification n latency : Work σ Unit) :=
      .onNotification (Q := fun v => v.mode = s.around.mode) fun v h => by
        simpa [Watch.mode] using h
    exact .inl (hnotify (s.withClock clock) rfl)
  | reset =>
    exact .inl ((hmode.keeps_resetManually.bind fun _ => .pure _) (s.withClock clock) rfl)
  | enable => exact absurd rfl hop
  | disable => exact hdisable (s.withClock clock) rfl
  | shutdown =>
    -- stopping the loop comes first and has no part in the mode
    exact hdisable ((Work.onMonitor (·.stop) : Work σ Unit).run.run (s.withClock clock)).2 rfl

/-- An attempt to enter the mode that is on does nothing. -/
lemma mode_enable_of_recording {s : Scene σ Watch} (h : s.around.journal.isRecording = true)
    (clock : Clock) : (w.next s (clock, .enable)).around.mode = s.around.mode := by
  rw [next_enable, run_enableDiagnostics_of_recording]
  · rfl
  · exact h

/-- The status never shows a mode that is off. -/
lemma mode_next_ne {s : Scene σ Watch} (h : s.around.mode ≠ (false, true))
    (step : Clock × Operation) : (w.next s step).around.mode ≠ (false, true) := by
  obtain ⟨clock, op⟩ := step
  by_cases hop : op = .enable
  · subst hop
    cases hr : s.around.journal.isRecording with
    | true => rwa [mode_enable_of_recording w hr]
    | false =>
      have hoff := Watch.mode_of_not_recording h hr
      rcases w.mode_enable hoff clock with h' | ⟨h', -⟩ | ⟨h', -⟩ <;> simp [h']
  · rcases w.mode_next_of_ne_enable s clock hop with h' | ⟨-, h'⟩
    · rwa [h']
    · simp [h']

/-- A session that the status does not tell of is left by the operation before, or by an attempt to
enter the mode that was broken off. -/
lemma mode_next_eq_iff {s : Scene σ Watch} (h : s.around.mode ≠ (false, true))
    (clock : Clock) (op : Operation) :
    (w.next s (clock, op)).around.mode = (true, false) ↔
      (w.next s (clock, op)).around.journal.isRecording = true ∧
        (s.around.mode = (true, false) ∨ op = .enable ∧ w.BreaksOff s clock) := by
  by_cases hop : op = .enable
  · subst hop
    cases hr : s.around.journal.isRecording with
    | true =>
      have hkept := mode_enable_of_recording w hr clock
      have hon : (w.next s (clock, .enable)).around.journal.isRecording = true :=
        (congrArg Prod.fst hkept).trans hr
      simp [hkept, hon, BreaksOff, hr]
    | false =>
      have hoff := Watch.mode_of_not_recording h hr
      rcases w.mode_enable hoff clock with h' | ⟨h', hb⟩ | ⟨h', hb⟩
      · have hon : (w.next s (clock, .enable)).around.journal.isRecording = false :=
          congrArg Prod.fst h'
        simp [h', hon]
      · have hon : (w.next s (clock, .enable)).around.journal.isRecording = true :=
          congrArg Prod.fst h'
        simp [h', hon, hb]
      · simp [h', hoff, hb]
  · rcases w.mode_next_of_ne_enable s clock hop with h' | ⟨-, h'⟩
    · have hon : (w.next s (clock, op)).around.journal.isRecording =
          s.around.journal.isRecording := congrArg Prod.fst h'
      simp only [h', hon, hop, false_and, or_false]
      exact ⟨fun hm => ⟨congrArg Prod.fst hm, hm⟩, And.right⟩
    · have hon : (w.next s (clock, op)).around.journal.isRecording = false :=
        congrArg Prod.fst h'
      simp [h', hon]

lemma mode_after_ne {start : Scene σ Watch} (h : start.around.mode = (false, false))
    (steps : List (Clock × Operation)) : (w.after start steps).around.mode ≠ (false, true) := by
  induction steps using List.reverseRecOn with
  | nil => simp [h]
  | append_singleton past step ih =>
    rw [after_concat]
    exact w.mode_next_ne ih step

/-- A session that the status does not tell of is there exactly since an attempt to enter the mode
that was broken off. -/
lemma mode_after_eq_iff {start : Scene σ Watch} (h : start.around.mode = (false, false))
    (steps : List (Clock × Operation)) :
    (w.after start steps).around.mode = (true, false) ↔
      ∃ earlier c later, steps = earlier ++ (c, .enable) :: later ∧
        w.BreaksOff (w.after start earlier) c ∧
        ∀ k ≤ later.length, (w.after start
          (earlier ++ (c, .enable) :: later.take k)).around.journal.isRecording = true := by
  induction steps using List.reverseRecOn with
  | nil => simp [h]
  | append_singleton past step ih =>
    obtain ⟨clock, op⟩ := step
    rw [after_concat, mode_next_eq_iff w (w.mode_after_ne h past), ih]
    constructor
    · rintro ⟨hon, ⟨earlier, c, later, rfl, hbreak, hkept⟩ | ⟨rfl, hbreak⟩⟩
      · refine ⟨earlier, c, later ++ [(clock, op)], by simp, hbreak, fun k hk => ?_⟩
        rcases Nat.lt_or_ge later.length k with hlt | hle
        · rw [List.take_of_length_le (by simp; omega)]
          rw [← after_concat] at hon
          simpa using hon
        · rw [List.take_append_of_le_length hle]
          exact hkept k hle
      · refine ⟨past, clock, [], rfl, hbreak, fun k _ => ?_⟩
        rw [List.take_nil, after_concat]
        exact hon
    · rintro ⟨earlier, c, later, hsteps, hbreak, hkept⟩
      have hall := hkept later.length (Nat.le_refl _)
      rw [List.take_length, ← hsteps, after_concat] at hall
      refine ⟨hall, ?_⟩
      -- the attempt is the last step, or it lies in the past and its session is still there
      cases later using List.reverseRecOn with
      | nil =>
        obtain ⟨rfl, hstep⟩ := List.append_inj' hsteps rfl
        obtain ⟨rfl, rfl⟩ := Prod.mk.inj (List.singleton_inj.mp hstep)
        exact .inr ⟨rfl, hbreak⟩
      | append_singleton later last =>
        left
        rw [← List.cons_append, ← List.append_assoc] at hsteps
        obtain ⟨rfl, -⟩ := List.append_inj' hsteps rfl
        refine ⟨earlier, c, later, rfl, hbreak, fun k hk => ?_⟩
        have hkept := hkept k (by simp; omega)
        rwa [List.take_append_of_le_length hk] at hkept

/-- Telling of the mode fails exactly while a session is attached that an attempt to enter the mode
has left behind when it was broken off. -/
theorem mode_shown_ne_iff (host : σ) (disk : Disk) (clock : Clock)
    (steps : List (Clock × Operation)) :
    let start := w.opening host disk clock
    ¬(w.after start steps).around.ShowsMode ↔
      ∃ earlier c later, steps = earlier ++ (c, .enable) :: later ∧
        w.BreaksOff (w.after start earlier) c ∧
        ∀ k ≤ later.length, (w.after start
          (earlier ++ (c, .enable) :: later.take k)).around.journal.isRecording = true := by
  intro start
  have hstart : start.around.mode = (false, false) := rfl
  rw [← mode_after_eq_iff w hstart]
  have hne := w.mode_after_ne hstart steps
  revert hne
  unfold Watch.ShowsMode Watch.mode
  cases (w.after start steps).around.journal.isRecording <;>
    cases (w.after start steps).around.status.diagnostics <;> simp

/-- The helper cannot be measured, so that the one attempt to enter the mode is broken off. -/
theorem mode_not_shown_of_broken_sample :
    let w := ProcessTable.watchdog 1
    let table : ProcessTable := { found := [10], breaksOn := some (.sample, .text "boom") }
    ¬(w.after (w.opening table .empty ⟨⟨1773047107, 0⟩⟩)
      [(⟨⟨1773047107, 0⟩⟩, .enable)]).around.ShowsMode := by
  decide +kernel

end Watchdog

end ClipboardWatchdog
