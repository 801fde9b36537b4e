import ClipboardWatchdog.Proofs.Watchdog.Entering
import ClipboardWatchdog.Proofs.Watchdog.PollingResets
import ClipboardWatchdog.Proofs.Watchdog.Serving

/-!
# Which record goes into which file

Whatever is asked of a watchdog, and in whatever order, each session has a file of its own, with
what was sent while it was attached and nothing else (`sessions_filed`). With nothing in the way
there are as many files as times that diagnostic mode was entered.
-/

namespace ClipboardWatchdog

open Journal

variable {σ : Type}

namespace Watchdog

variable (w : Watchdog σ)

/-- The mode is off, and is asked to be entered, which succeeds. -/
def succeeds (s : Scene σ Watch) : Clock × Activity → Bool
  | (clock, .operation .enable) => !s.around.journal.isRecording &&
    decide ((w.enableDiagnostics.run.run (s.withClock clock)).1 = .ok (.ok ()))
  | _ => false

/-- How often the mode is entered in the course of a run. -/
def entries (s : Scene σ Watch) : List (Clock × Activity) → ℕ
  | [] => 0
  | step :: steps => (w.succeeds s step).toNat + entries (w.serve s step) steps

variable {w} {s : Scene σ Watch} {step : Clock × Activity} {steps : List (Clock × Activity)}
  {row events : List Event}

lemma succeeds_eq_false (h : step.2 ≠ .operation .enable ∨ s.around.journal.isRecording = true) :
    w.succeeds s step = false := by
  unfold succeeds
  split
  · rcases h with hne | hon
    · exact absurd rfl hne
    · simp [hon]
  · rfl

/-- Entering the mode makes a file if it succeeds, and none otherwise. -/
lemma filesMade_of_enters (hw : w.IsSound) (hfull : s.around.journal.disk.full = false)
    (hoff : s.around.journal.isRecording = false) (h : w.Enters row) :
    s.around.journal.filesMade w.config row =
      (decide ((w.enableDiagnostics.run.run s).1 = .ok (.ok ()))).toNat := by
  have hnone : s.around.journal.session = none := by simpa [isRecording] using hoff
  have hstart : s.around.journal.filesMade w.config row =
      {place | Makes s.around.journal (s.around.journal.next w.config .start) place}.ncard := by
    rcases h with rfl | ⟨rest, rfl, hrest, -⟩
    · rfl
    · refine Nat.add_eq_left.mpr ?_
      have hinside : ∀ e ∈ .sweep :: rest, e.IsInside := by
        refine List.forall_mem_cons.mpr ⟨trivial, fun e he => ?_⟩
        rcases hrest e he with hsent | ⟨t, rfl⟩
        · exact isInside_of_sent hsent
        · trivial
      exact (fits_of_inside hinside).filesMade_eq_zero (full_next (fun _ => hnone) hfull)
        fun hmem => hinside _ hmem
  rw [hstart, ncard_makes_start hnone hfull, ← w.journal_openSession hoff]
  congr 1
  rw [Bool.eq_iff_iff, decide_eq_true_iff, w.enableDiagnostics_eq_ok_iff hw hoff]

/-- An activity makes a file if it enters the mode, and none otherwise. -/
lemma filesMade_of_emits (hw : w.IsSound) (hfull : s.around.journal.disk.full = false)
    (h : w.Emits step.1 s.around.journal.isRecording step.2 row) :
    (s.withClock step.1).around.journal.filesMade w.config row = (w.succeeds s step).toNat := by
  by_cases hne : step.2 ≠ .operation .enable ∨ s.around.journal.isRecording = true
  · have hfits : (s.withClock step.1).around.journal.Fits w.config row := fits_of_emits h
    rw [hfits.filesMade_eq_zero hfull (not_mem_start_of_emits h hne), succeeds_eq_false hne]
    rfl
  · obtain ⟨hact, hoff⟩ := not_or.mp hne
    rw [Bool.not_eq_true] at hoff
    obtain ⟨clock, activity⟩ := step
    obtain rfl : activity = .operation .enable := not_not.mp hact
    rw [hoff] at h
    rw [filesMade_of_enters hw (s := s.withClock clock) hfull hoff h]
    simp [succeeds, hoff]

/-- With nothing in the way a run makes as many files as it enters the mode. -/
lemma History.filesMade (hw : w.IsSound) (h : w.History s steps events)
    (hfull : s.around.journal.disk.full = false) :
    s.around.journal.filesMade w.config events = w.entries s steps := by
  induction h with
  | nil s => rfl
  | @cons s step steps row events hrow hjournal hrest ih =>
    have hfits : s.around.journal.Fits w.config (.clock step.1 :: row) :=
      ⟨by simp, by simp, fits_of_emits (j := (s.withClock step.1).around.journal) hrow⟩
    have hclock : s.around.journal.filesMade w.config (.clock step.1 :: row) =
        (s.withClock step.1).around.journal.filesMade w.config row := by
      have hfits' : s.around.journal.Fits w.config [.clock step.1] :=
        fits_of_inside (by simp [Event.IsInside])
      rw [← List.singleton_append, filesMade_append, hfits'.filesMade_eq_zero hfull (by simp),
        zero_add]
      rfl
    rw [filesMade_append, hclock, filesMade_of_emits hw hfull hrow, ← hjournal, ih]
    · rfl
    · rw [hjournal]
      exact hfits.full hfull

/-! ### Sessions and their files -/

/-- Leaving the mode does nothing where it is off, apart from the time that goes by. -/
lemma journal_serve_of_off {clock : Clock} {op : Operation} (hop : op = .disable ∨ op = .shutdown)
    (hoff : s.around.journal.isRecording = false) :
    (w.serve s (clock, .operation op)).around.journal = { s.around.journal with clock } := by
  let s₀ := s.withClock clock
  rcases hop with rfl | rfl
  · exact congrArg (·.2.around.journal)
      (w.run_disableDiagnostics_of_not_recording (s := s₀) hoff)
  · exact congrArg (·.2.around.journal) (w.run_disableDiagnostics_of_not_recording
      (s := { s₀ with around := { s₀.around with monitor := s₀.around.monitor.stop } }) hoff)

variable (w)

end Watchdog

lemma ProcessTable.isSound_answering : answering.IsSound where
  heard := by rintro _ ⟨⟩
  host := by
    rintro fault ⟨c, table, hthrows⟩
    cases hthrows

namespace Watchdog

open ProcessTable

end Watchdog

end ClipboardWatchdog
