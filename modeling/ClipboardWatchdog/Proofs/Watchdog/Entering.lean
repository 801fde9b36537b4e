import ClipboardWatchdog.Proofs.Watchdog.UnreadableClock

/-!
# Entering the mode with nothing in the way

Where the clock can be read, the host does not break down and the receiver takes what it is handed,
nothing breaks off what a watchdog does (`Sure`). Entering the mode then fails only where the file
of the session cannot be made.
-/

namespace ClipboardWatchdog

variable {σ α β : Type}

/-- The receiver takes whatever it is handed, and the host never breaks down. -/
structure Watchdog.IsSound (w : Watchdog σ) : Prop where
  heard : w.IsHeard
  host : ∀ fault, ¬w.host.Throws fault

/-- While the clock shows this, nothing breaks the work off, and the clock goes on showing it. -/
def Sure (c : Clock) (a : Work σ α) : Prop :=
  Ends (fun s => s.around.journal.clock = c) a (fun _ s => s.around.journal.clock = c)
    fun _ _ => False

/-- Where records are taken, that of the files that were removed goes through. -/
lemma Journal.noteRemoved_fst_of_takesRecords {j : Journal} (h : j.TakesRecords) (removed : ℕ) :
    (j.noteRemoved removed).1 = .ok () := by
  unfold noteRemoved
  split
  · exact record_fst_of_takesRecords h _ _
  · rfl

/-- Routine work does not change the clock. -/
lemma Watchdog.routine_clock (w : Watchdog σ) (c : Clock) :
    w.Routine fun v => v.journal.clock = c where
  monitor _ _ h := h
  status _ _ _ h := h
  deliveries _ _ h := h
  record _ _ _ _ h := (Journal.clock_record _ _ _).trans h

namespace Sure

variable {c : Clock}

protected lemma pure (x : α) : Sure c (pure x : Work σ α) := Ends.pure fun _ h => h

protected lemma bind {a : Work σ α} {f : α → Work σ β} (ha : Sure c a) (hf : ∀ x, Sure c (f x)) :
    Sure c (a >>= f) := Ends.bind ha hf

protected lemma ite {p : Prop} [Decidable p] {a b : Work σ α} (ha : Sure c a) (hb : Sure c b) :
    Sure c (if p then a else b) := Ends.ite ha hb

lemma watch : Sure c (Work.watch : Work σ Watch) := fun _ h => h

lemma runs : Sure c (Work.runs : Work σ ℕ) := fun _ h => h

lemma onMonitor (f : Monitor → Monitor) : Sure c (Work.onMonitor f : Work σ Unit) := fun _ h => h

lemma onStatus (f : Status → Status) : Sure c (Work.onStatus f : Work σ Unit) := fun _ h => h

lemma addSection (title : String) : Sure c (Work.onJournal (·.addSection title) : Work σ Unit) :=
  fun _ h => (Journal.clock_addSection _ _).trans h

section

variable {now : Moment} (hread : c.read = .ok now)

include hread

lemma record (category : Option Category) (message : String) :
    Sure c (Work.note (·.record category message) : Work σ Unit) := by
  intro s hs
  have htakes := Journal.takesRecords_of_read (hs ▸ hread)
  rw [run_note, Journal.record_fst_of_takesRecords htakes]
  exact (Journal.clock_record _ _ _).trans hs

lemma clockText : Sure c (Work.clockText : Work σ String) := by
  intro s hs
  rw [Watchdog.run_clockText, hs, hread]
  exact hs

variable {w : Watchdog σ}

lemma removeOld : Sure c w.removeOld := by
  intro s hs
  unfold Watchdog.removeOld
  rw [run_note]
  dsimp only
  rw [Journal.noteRemoved_fst_of_takesRecords (Journal.takesRecords_of_read (hs ▸ hread))]
  exact (Journal.clock_noteRemoved _ _).trans hs

end

/-! ### Resets -/

variable {w : Watchdog σ}

lemma emit (hw : w.IsHeard) : Sure c w.emit := by
  intro s hs
  rw [Watchdog.run_emit]
  cases hreceiver : w.receiver with
  | none => exact hs
  | some receive =>
    simp only [hw receive hreceiver]
    exact hs

lemma say (hw : w.IsHeard) (message : String) : Sure c (w.say message) :=
  (onStatus _).bind fun _ => emit hw

lemma reset (w : Watchdog σ) (reason : Reason) :
    Sure c (liftM (reset w.host Watch.dropManual w.config.helper reason) : Work σ Outcome) :=
  fun s hs => Keeps.reset (w.routine_clock c).keeps_dropManual w.host w.config.helper reason s hs

variable {now : Moment} (hread : c.read = .ok now)

include hread

lemma tell (hw : w.IsHeard) (reason : Reason) (outcome : Outcome) :
    Sure c (w.tell reason outcome) := by
  cases outcome with
  | completed report =>
    have hcount : Sure c w.showRuns := runs.bind fun _ => (onStatus _).bind fun _ => emit hw
    refine Sure.bind (Ends.forM (fun _ => record hread _ _) _) fun _ => .ite ?_ ?_
    · exact (record hread _ _).bind fun _ => (record hread _ _).bind fun _ =>
        (clockText hread).bind fun _ => (say hw _).bind fun _ => hcount
    · exact (record hread _ _).bind fun _ => (say hw _).bind fun _ => hcount
  | coalesced => exact record hread _ _
  | failed message => exact (record hread _ _).bind fun _ => say hw _

lemma remediate (hw : w.IsHeard) (reason : Reason) : Sure c (w.remediate reason) := by
  rw [w.remediate_eq]
  exact (reset w reason).bind fun outcome => (tell hread hw reason outcome).bind fun _ => .pure _

lemma resetManually (hw : w.IsHeard) : Sure c w.resetManually :=
  (record hread _ _).bind fun _ => (onMonitor _).bind fun _ =>
    (remediate hread hw _).bind fun _ => (onMonitor _).bind fun _ => .pure _

/-! ### Asking the host -/

lemma call (hw : w.IsSound) (call : Call) : Sure c (w.call call) := by
  have hrequest : Sure c (do
      let outcome ← w.resetManually
      return (← get).standing outcome : Work σ Standing) :=
    (resetManually hread hw.heard).bind fun _ _ h => h
  have hunvisited : Unvisited fun s : Scene σ Watch => s.around.journal.clock = c :=
    unvisited_around fun v : Watch => v.journal.clock = c
  refine (ends_makeCall (F := fun _ => False) hunvisited hrequest w.host call).imp
    (fun _ => id) (fun _ _ => And.right) fun fault _ hfault => ?_
  rcases hfault with hthrows | hfalse
  · exact hw.host fault hthrows
  · exact hfalse

lemma health (hw : w.IsSound) : Sure c w.health := by
  unfold Watchdog.health
  induction probe w.config.helper with
  | done a => exact .pure a
  | call c next ih => exact (call hread hw c).bind ih

lemma recordHealth (hw : w.IsSound) : Sure c w.recordHealth :=
  (health hread hw).bind fun _ => (record hread _ _).bind fun _ => .pure _

lemma recordState (hw : w.IsSound) : Sure c w.recordState :=
  (addSection _).bind fun _ => (recordHealth hread hw).bind fun _ => watch.bind fun _ =>
    runs.bind fun _ => (record hread _ _).bind fun _ => (addSection _).bind fun _ =>
      record hread _ _

end Sure

namespace Watchdog

variable (w : Watchdog σ)

/-- Making and attaching the file of a session succeeds, at a time that can be read, or no session
is attached. -/
lemma openSession_cases {s : Scene σ Watch} (hoff : s.around.journal.isRecording = false) :
    let done := w.openSession.run.run s
    done.1 = .ok (.ok ()) ∧ done.2.around.journal.isRecording = true ∧
        (∃ now, s.around.journal.clock.read = .ok now) ∧
        done.2.around.journal.clock = s.around.journal.clock ∨
      done.1 ≠ .ok (.ok ()) ∧ done.2.around.journal.isRecording = false := by
  rw [w.run_openSession_of_not_recording hoff]
  dsimp only
  cases hcreate : (Session.create s.around.journal.disk s.around.journal.clock w.config.origin
    w.config.logDirectory w.config.logBase w.config.role w.config.helper).1 with
  | error e => cases e <;> exact .inr ⟨by simp, rfl⟩
  | ok session => exact .inl ⟨rfl, rfl, Session.clock_read_of_create_eq_ok hcreate, rfl⟩

/-- With nothing in the way the mode is entered exactly if there is a session to enter. -/
lemma enableDiagnostics_eq_ok_iff (hw : w.IsSound) {s : Scene σ Watch}
    (hoff : s.around.journal.isRecording = false) :
    (w.enableDiagnostics.run.run s).1 = .ok (.ok ()) ↔
      (w.openSession.run.run s).2.around.journal.isRecording = true := by
  rw [w.run_enableDiagnostics_of_not_recording hoff, startSession, run_run_bind]
  have hcases := w.openSession_cases hoff
  revert hcases
  rcases w.openSession.run.run s with ⟨opened, s₁⟩
  rintro (⟨rfl, hon, ⟨now, hread⟩, hclock⟩ | ⟨hopened, hoff'⟩)
  · have hread : s₁.around.journal.clock.read = .ok now := hclock ▸ hread
    have hrest : Ends (fun t : Scene σ Watch => t.around.journal.clock = s₁.around.journal.clock)
        (do w.removeOld; w.recordState; return .ok () : Work σ (Except DiskError Unit))
        (fun result t => result = .ok () ∧ t.around.journal.clock = s₁.around.journal.clock)
        fun _ _ => False :=
      Ends.bind (Sure.removeOld hread) fun _ => Ends.bind (Sure.recordState hread hw) fun _ =>
        .pure fun _ ht => ⟨rfl, ht⟩
    have hannounce : Ends (fun t : Scene σ Watch => t.around.journal.clock =
          s₁.around.journal.clock) w.announceSession (fun result _ => result = .ok ())
        fun _ _ => False :=
      Ends.bind (Sure.onStatus _) fun _ => Ends.bind (Sure.emit hw.heard) fun _ =>
        .pure fun _ _ => rfl
    obtain ⟨_, s₂, hrun, rfl, hs₂⟩ := hrest.exists_run_eq_ok rfl
    obtain ⟨_, s₃, hrun', rfl⟩ := hannounce.exists_run_eq_ok hs₂
    dsimp only
    rw [hrun]
    dsimp only
    rw [hrun']
    simp [hon]
  · refine iff_of_false (fun h => ?_) (by simp [hoff'])
    rcases opened with fault | e | ⟨⟩
    · cases (h : Except.error fault = _)
    · cases (h : Except.ok (Except.error e) = _)
    · exact hopened rfl

end Watchdog

end ClipboardWatchdog
