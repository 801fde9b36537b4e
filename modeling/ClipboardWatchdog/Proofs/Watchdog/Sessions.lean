import ClipboardWatchdog.Proofs.Watchdog.Operations

/-!
# Opening and closing a session

What entering and leaving diagnostic mode come to, step by step. `startSession` is all that
entering the mode does before the status says that it is on: the file is made and attached, old
files are removed, and the state of things is recorded, for which the host is asked.

Apart from the host, who may do anything when it is asked, all of this only writes to the journal
and shows the mode. A property in which these have no part (`Watchdog.ModeFree`) is kept by it.
-/

namespace ClipboardWatchdog

variable {σ : Type}

namespace Journal

@[simp] lemma isRecording_record (j : Journal) (category : Option Category) (message : String) :
    (j.record category message).2.isRecording = j.isRecording := by
  unfold record isRecording
  split
  · next h => simp [h]
  · next s h => cases s.record j.disk j.clock category message <;> simp [h]

@[simp] lemma isRecording_addSection (j : Journal) (title : String) :
    (j.addSection title).isRecording = j.isRecording := by
  unfold addSection isRecording
  split
  · rfl
  · next s h => simp [h]

/-- A record of an attached session is written only if the clock can be read. -/
lemma clock_read_of_record {j : Journal} {category : Option Category} {message : String}
    (hj : j.isRecording = true) (h : (j.record category message).1 = .ok ()) :
    ∃ now, j.clock.read = .ok now := by
  obtain ⟨s, hs⟩ := Option.isSome_iff_exists.mp hj
  simp only [record, hs, Session.record] at h
  cases hc : j.clock.read with
  | ok now => exact ⟨now, rfl⟩
  | error fault => simp [hc, bind, Except.bind] at h

/-- The clock of a journal is not changed by writing to it. -/
@[simp] lemma clock_record (j : Journal) (category : Option Category) (message : String) :
    (j.record category message).2.clock = j.clock := by
  unfold record
  split
  · rfl
  · next s _ => cases s.record j.disk j.clock category message <;> rfl

@[simp] lemma clock_addSection (j : Journal) (title : String) :
    (j.addSection title).clock = j.clock := by
  cases h : j.session <;> simp [addSection, h]

@[simp] lemma clock_detach (j : Journal) : j.detach.2.clock = j.clock := by
  rw [detach]
  split
  · rfl
  · next s _ => cases s.close j.disk j.clock <;> rfl

@[simp] lemma clock_attach (j : Journal) (s : Session) : (j.attach s).2.clock = j.clock :=
  clock_detach j

@[simp] lemma clock_noteRemoved (j : Journal) (removed : ℕ) :
    (j.noteRemoved removed).2.clock = j.clock := by
  rw [noteRemoved]
  split
  · exact clock_record _ _ _
  · rfl

@[simp] lemma isRecording_detach (j : Journal) : j.detach.2.isRecording = false := by
  unfold detach isRecording
  split
  · next h => simp [h]
  · next s _ => cases s.close j.disk j.clock <;> rfl

/-- Closing a session can be cut short by the clock alone. -/
lemma detach_fst_of_read {j : Journal} {now : Moment} (h : j.clock.read = .ok now) :
    ∃ path, j.detach.1 = .ok path := by
  unfold detach
  split
  · exact ⟨_, rfl⟩
  · simp [Session.close, h, bind, Except.bind, pure, Except.pure]

end Journal

namespace Watchdog

variable (w : Watchdog σ)

/-- What entering diagnostic mode does before the status says that the mode is on. -/
def startSession : Work σ (Except DiskError Unit) := do
  match ← w.openSession with
  | .error e => return .error e
  | .ok () =>
    w.removeOld
    w.recordState
    return .ok ()

/-- Telling that the mode is on. -/
def announceSession : Work σ (Except DiskError Unit) := do
  Work.onStatus fun st => { st with diagnostics := true }
  w.emit
  return .ok ()

lemma run_watch_bind {α : Type} (f : Watch → Work σ α) (s : Scene σ Watch) :
    ((Work.watch : Work σ Watch) >>= f).run.run s = (f s.around).run.run s := rfl

lemma run_enableDiagnostics_of_recording {s : Scene σ Watch}
    (h : s.around.journal.isRecording = true) :
    w.enableDiagnostics.run.run s = (.ok (.ok ()), s) := by
  unfold enableDiagnostics
  rw [run_watch_bind, if_pos h]
  rfl

/-- Entering the mode is starting a session and telling of it. -/
lemma run_enableDiagnostics_of_not_recording {s : Scene σ Watch}
    (h : s.around.journal.isRecording = false) :
    w.enableDiagnostics.run.run s =
      match w.startSession.run.run s with
      | (.error fault, s') => (.error fault, s')
      | (.ok (.error e), s') => (.ok (.error e), s')
      | (.ok (.ok ()), s') => w.announceSession.run.run s' := by
  unfold enableDiagnostics startSession
  rw [run_watch_bind, if_neg (by simp [h]), run_run_bind, run_run_bind]
  rcases w.openSession.run.run s with ⟨_ | _ | ⟨⟩, s'⟩
  · rfl
  · rfl
  · dsimp only
    rw [run_run_bind, run_run_bind]
    rcases w.removeOld.run.run s' with ⟨_ | ⟨⟩, s'⟩
    · rfl
    · dsimp only
      rw [run_run_bind, run_run_bind]
      rcases w.recordState.run.run s' with ⟨_ | ⟨⟩, s'⟩ <;> rfl

/-- Whatever its receiver does, the status says that the mode is on. -/
lemma run_announceSession_snd (s : Scene σ Watch) :
    (w.announceSession.run.run s).2.around.journal = s.around.journal ∧
      (w.announceSession.run.run s).2.around.status.diagnostics = true :=
  have hemit : Keeps (fun s' : Scene σ Watch =>
      s'.around.journal = s.around.journal ∧ s'.around.status.diagnostics = true) w.emit :=
    .emit (Q := fun w => w.journal = s.around.journal ∧ w.status.diagnostics = true)
      (fun _ _ h => h) w
  (hemit.bind fun _ => .pure _)
    { s with around := { s.around with status := { s.around.status with diagnostics := true } } }
    ⟨rfl, rfl⟩

/-- Making and attaching the file of a session is all or nothing: if no file comes of it, no
session is attached. -/
lemma run_openSession_of_not_recording {s : Scene σ Watch}
    (h : s.around.journal.isRecording = false) :
    w.openSession.run.run s =
      let c := w.config
      let j := s.around.journal
      let made := Session.create j.disk j.clock c.origin c.logDirectory c.logBase c.role c.helper
      let moved (session : Option Session) : Scene σ Watch :=
        { s with around := { s.around with journal := { j with disk := made.2, session } } }
      match made.1 with
      | .error (.disk e) => (.ok (.error e), moved none)
      | .error (.clock fault) => (.error (.clock fault), moved none)
      | .ok session => (.ok (.ok ()), moved (some session)) := by
  obtain ⟨engine, ⟨monitor, ⟨disk, clock, log, session⟩, status, deliveries⟩⟩ := s
  obtain rfl : session = none := by simpa [Journal.isRecording] using h
  unfold openSession
  rw [run_watch_bind]
  dsimp only
  rcases Session.create disk clock w.config.origin w.config.logDirectory w.config.logBase
    w.config.role w.config.helper with ⟨(e | fault) | made, disk'⟩ <;> rfl

lemma run_disableDiagnostics_of_not_recording {s : Scene σ Watch}
    (h : s.around.journal.isRecording = false) :
    w.disableDiagnostics.run.run s = (.ok (), s) := by
  unfold disableDiagnostics
  rw [run_watch_bind, if_neg (by simp [h])]
  rfl

/-- Leaving the mode is abandoned before the session is closed, with the status as it was, or the
session is closed and the status says that the mode is off. -/
lemma run_disableDiagnostics_snd {s : Scene σ Watch} (h : s.around.journal.isRecording = true) :
    let s' := (w.disableDiagnostics.run.run s).2
    s'.around.journal.isRecording = true ∧
        s'.around.status.diagnostics = s.around.status.diagnostics ∨
      s'.around.journal.isRecording = false ∧ s'.around.status.diagnostics = false := by
  dsimp only
  unfold disableDiagnostics
  rw [run_watch_bind, if_pos h, run_run_bind, run_note]
  cases hr : (s.around.journal.record (some .info) "Diagnostic mode disabled").1 with
  | error fault =>
    left
    simp [Journal.info, hr, Except.mapError, h]
  | ok _ =>
    right
    -- the record was written, so the clock can be read and the session can be closed
    obtain ⟨now, hnow⟩ := Journal.clock_read_of_record h hr
    obtain ⟨path, hpath⟩ := Journal.detach_fst_of_read
      (j := (s.around.journal.record (some .info) "Diagnostic mode disabled").2)
      (by rw [Journal.clock_record]; exact hnow)
    simp only [Journal.info, hr, Except.mapError]
    rw [run_run_bind, run_note]
    simp only [hpath, Except.mapError]
    have hemit : Keeps (fun s' : Scene σ Watch =>
        s'.around.journal.isRecording = false ∧ s'.around.status.diagnostics = false) w.emit :=
      .emit (Q := fun w => w.journal.isRecording = false ∧ w.status.diagnostics = false)
        (fun _ _ h => h) w
    exact hemit _ ⟨Journal.isRecording_detach _, rfl⟩

/-- Removing old files writes no more than a record. -/
lemma keeps_removeOld {Q : Watch → Prop} (hQ : w.Routine Q)
    (hdisk : ∀ w disk, Q w → Q { w with journal := { w.journal with disk } }) :
    Keeps (fun s : Scene σ Watch => Q s.around) w.removeOld := by
  refine Keeps.note fun w' hw => ?_
  have hw' := hdisk w' (Session.sweep w'.journal.disk w.config.logDirectory w.config.logBase
    w.config.logRetention).2 hw
  dsimp only [Journal.noteRemoved]
  split
  · exact hQ.record _ _ _ (.removed _) hw'
  · exact hw'

/-! ### Properties that the mode has no part in -/

/-- What is written to the journal, and the mode that the status shows, have no part in the
property. -/
structure ModeFree (Q : Scene σ Watch → Prop) : Prop where
  note {α : Type} {f : Journal → Journal.Written α} (h : ∀ j, (f j).2.clock = j.clock) :
    Keeps Q (Work.note f : Work σ α)
  onJournal {f : Journal → Journal} (h : ∀ j, (f j).clock = j.clock) :
    Keeps Q (Work.onJournal f : Work σ Unit)
  showMode (diagnostics : Bool) :
    Keeps Q (do Work.onStatus fun st => { st with diagnostics }; w.emit)

namespace ModeFree

variable {w : Watchdog σ} {Q : Scene σ Watch → Prop} (hQ : w.ModeFree Q)

include hQ

lemma keeps_record (category : Option Category) (message : String) :
    Keeps Q (Work.note (·.record category message) : Work σ Unit) :=
  hQ.note fun j => Journal.clock_record j category message

lemma keeps_onNotification (n : Notification) (latency : Span) :
    Keeps Q (onNotification n latency) := by
  rw [onNotification_eq]
  exact hQ.keeps_record _ _

lemma keeps_openSession : Keeps Q w.openSession := by
  refine Keeps.bind (Keeps.get.bind fun _ => .pure _) fun watch => ?_
  refine Keeps.bind (hQ.onJournal fun _ => rfl) fun _ => ?_
  split
  · exact .pure _
  · exact .throw _
  · exact (hQ.note fun j => j.clock_attach _).bind fun _ => .pure _

/-- Between the records the helper is looked at. -/
lemma keeps_recordState (hhealth : Keeps Q w.recordHealth) : Keeps Q w.recordState := by
  have hsection (title : String) : Keeps Q (Work.onJournal (·.addSection title) : Work σ Unit) :=
    hQ.onJournal fun j => j.clock_addSection title
  refine (hsection _).bind fun _ => hhealth.bind fun _ => ?_
  refine Keeps.bind (Keeps.get.bind fun _ => .pure _) fun _ => ?_
  refine Keeps.bind (Keeps.get.bind fun _ => .pure _) fun _ => ?_
  exact (hQ.keeps_record _ _).bind fun _ => (hsection _).bind fun _ => hQ.keeps_record _ _

lemma keeps_enableDiagnostics (hhealth : Keeps Q w.recordHealth) :
    Keeps Q w.enableDiagnostics := by
  have hremove : Keeps Q w.removeOld := hQ.note fun j => Journal.clock_noteRemoved _ _
  have hannounce : Keeps Q w.announceSession := by
    rw [announceSession, ← bind_assoc]
    exact (hQ.showMode true).bind fun _ => .pure _
  refine Keeps.bind (Keeps.get.bind fun _ => .pure _) fun watch => .ite (.pure _) ?_
  refine hQ.keeps_openSession.bind fun opened => ?_
  cases opened with
  | error e => exact .pure _
  | ok _ => exact hremove.bind fun _ => (hQ.keeps_recordState hhealth).bind fun _ => hannounce

lemma keeps_disableDiagnostics : Keeps Q w.disableDiagnostics := by
  refine Keeps.bind (Keeps.get.bind fun _ => .pure _) fun watch => .ite ?_ (.pure _)
  exact (hQ.keeps_record _ _).bind fun _ => (hQ.note Journal.clock_detach).bind fun _ =>
    hQ.showMode false

end ModeFree

end Watchdog

end ClipboardWatchdog
