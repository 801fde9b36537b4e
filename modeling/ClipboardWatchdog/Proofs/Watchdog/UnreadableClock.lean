import ClipboardWatchdog.Proofs.Helper.Ending
import ClipboardWatchdog.Proofs.Watchdog.Completing
import ClipboardWatchdog.Proofs.Watchdog.Sessions
import ClipboardWatchdog.Proofs.Watchdog.Telling

/-!
# Clocks that cannot be read

Where a session is attached, a record needs the time of day, and so does the message that the
clipboard could not be read. A clock that gives no moment breaks the work off there. Of all that is
asked of a watchdog at such a time, only a manual reset without a session reaches the engine; the
rest leaves the scene idle: nothing is done but for the log and the copies that polling counts.
-/

namespace ClipboardWatchdog

variable {σ : Type}

namespace Journal

/-- A record that is made now goes through: no session is attached, or the clock can be read. -/
def TakesRecords (j : Journal) : Prop := j.isRecording = true → ∃ now, j.clock.read = .ok now

variable {j : Journal}

lemma takesRecords_of_read {now : Moment} (h : j.clock.read = .ok now) : j.TakesRecords :=
  fun _ => ⟨now, h⟩

lemma takesRecords_of_not_recording (h : j.isRecording = false) : j.TakesRecords := by
  intro hrecording
  rw [h] at hrecording
  cases hrecording

lemma not_takesRecords_iff :
    ¬j.TakesRecords ↔ j.isRecording = true ∧ ∃ cause, j.clock.read = .error cause := by
  unfold TakesRecords
  cases j.clock.read <;> simp

lemma record_fst_of_takesRecords (h : j.TakesRecords) (category : Option Category)
    (message : String) : (j.record category message).1 = .ok () := by
  cases hs : j.session with
  | none => simp [record, hs]
  | some session =>
    obtain ⟨now, hnow⟩ := h (by simp [isRecording, hs])
    simp [record, hs, Session.record, hnow, bind, Except.bind, pure, Except.pure]

/-- A record that the session cannot take reaches the log. -/
lemma record_of_unreadable {cause : ClockFault} (hread : j.clock.read = .error cause)
    (h : j.isRecording = true) (category : Option Category) (message : String) :
    j.record category message =
      (.error cause, { j with log := j.log ++ [(.ofCategory category, message)] }) := by
  obtain ⟨session, hsession⟩ := Option.isSome_iff_exists.mp h
  simp [record, hsession, Session.record, hread, bind, Except.bind]

lemma takesRecords_record (h : j.TakesRecords) (category : Option Category) (message : String) :
    (j.record category message).2.TakesRecords := by
  intro hrecording
  rw [isRecording_record] at hrecording
  rw [clock_record]
  exact h hrecording

end Journal

/-! ### Records that go through -/

namespace Ends

variable {Q : Watch → Prop}

/-- Where records are taken, a record goes through and keeps what the journal keeps by it. -/
lemma watchNote (htakes : ∀ w, Q w → w.journal.TakesRecords)
    (hrecord : ∀ w category message,
      Q w → Q { w with journal := (w.journal.record category message).2 })
    (category : Option Category) (message : String) :
    Ends Q (Watch.note (·.record category message)) (fun _ => Q) fun _ _ => False := by
  intro w hw
  rw [run_watchNote, Journal.record_fst_of_takesRecords (htakes w hw)]
  exact hrecord w category message hw

/-- Where records are taken, the trace of a request that is dropped can be left. -/
lemma dropManual (htakes : ∀ w, Q w → w.journal.TakesRecords)
    (hrecord : ∀ w category message,
      Q w → Q { w with journal := (w.journal.record category message).2 })
    (hpaused : ∀ w paused, Q w → Q { w with monitor := { w.monitor with paused } }) :
    Ends Q Watch.dropManual (fun _ => Q) fun _ _ => False :=
  (watchNote htakes hrecord _ _).bind fun _ =>
    (Ends.modify fun w hw => hpaused w true hw).bind fun _ =>
      (watchNote htakes hrecord _ _).bind fun _ => .modify fun w hw => hpaused w false hw

end Ends

/-- A session needs a moment to start at. -/
lemma Session.clock_read_of_create_eq_ok {disk : Disk} {clock : Clock} {origin : Origin}
    {dir : Path} {base : String} {role : Role} {helper : String} {session : Session}
    (h : (Session.create disk clock origin dir base role helper).1 = .ok session) :
    ∃ now, clock.read = .ok now := by
  cases hread : clock.read with
  | ok now => exact ⟨now, rfl⟩
  | error cause =>
    simp only [Session.create, hread] at h
    split at h <;> cases h

/-! ### Records are taken throughout -/

lemma Watchdog.steady_takesRecords (w : Watchdog σ) :
    w.Steady fun v => v.journal.TakesRecords where
  monitor _ _ h := h
  status _ _ _ h := h
  deliveries _ _ h := h
  record _ category message _ h := Journal.takesRecords_record h category message
  addSection v title h := by
    intro hrecording
    rw [Journal.isRecording_addSection] at hrecording
    rw [Journal.clock_addSection]
    exact h hrecording

namespace Watchdog

variable (w : Watchdog σ)

/-- A session is started only at a time at which it can take records. -/
lemma takesRecords_startSession {s : Scene σ Watch} (h : s.around.journal.isRecording = false) :
    (w.startSession.run.run s).2.around.journal.TakesRecords := by
  rw [startSession, run_run_bind, run_openSession_of_not_recording w h]
  dsimp only
  cases hcreate : (Session.create s.around.journal.disk s.around.journal.clock w.config.origin
    w.config.logDirectory w.config.logBase w.config.role w.config.helper).1 with
  | error e => cases e <;> exact Journal.takesRecords_of_not_recording rfl
  | ok session =>
    obtain ⟨now, hnow⟩ := Session.clock_read_of_create_eq_ok hcreate
    have hsteady := w.steady_takesRecords
    exact ((w.keeps_removeOld hsteady.toRoutine fun _ _ h => h).bind fun _ =>
      hsteady.keeps_recordState.bind fun _ => .pure _) _ (Journal.takesRecords_of_read hnow)

lemma keeps_takesRecords_enableDiagnostics :
    Keeps (fun s => s.around.journal.TakesRecords) w.enableDiagnostics := by
  intro s hs
  cases hr : s.around.journal.isRecording with
  | true =>
    rw [run_enableDiagnostics_of_recording w hr]
    exact hs
  | false =>
    have hstart := w.takesRecords_startSession hr
    rw [run_enableDiagnostics_of_not_recording w hr]
    revert hstart
    rcases w.startSession.run.run s with ⟨fault | e | ⟨⟩, s'⟩
    · exact id
    · exact id
    · intro hstart
      rw [← (w.run_announceSession_snd s').1] at hstart
      exact hstart

lemma keeps_takesRecords_disableDiagnostics :
    Keeps (fun s => s.around.journal.TakesRecords) w.disableDiagnostics := by
  have hdetach : Keeps (fun s : Scene σ Watch => s.around.journal.TakesRecords)
      (Work.note (·.detach) : Work σ (Option Path)) :=
    .note (Q := fun w => w.journal.TakesRecords) fun w _ =>
      Journal.takesRecords_of_not_recording (Journal.isRecording_detach w.journal)
  have hstatus : Keeps (fun s : Scene σ Watch => s.around.journal.TakesRecords)
      (Work.onStatus fun st => { st with diagnostics := false }) :=
    .onWatch (Q := fun w => w.journal.TakesRecords) fun _ h => h
  refine (Keeps.watch (Q := fun w => w.journal.TakesRecords)).bind fun _ => .ite ?_ (.pure ())
  exact (w.steady_takesRecords.keeps_record .disabled).bind fun _ => hdetach.bind fun _ =>
    hstatus.bind fun _ => w.steady_takesRecords.keeps_emit

/-- Where records are taken at first, they are taken in the course of an operation and at its
end. -/
lemma keeps_takesRecords_perform (op : Operation) :
    Keeps (fun s => s.around.journal.TakesRecords) (w.perform op) := by
  have hsteady := w.steady_takesRecords
  cases op with
  | poll o => exact (hsteady.keeps_pollOnce o).bind fun _ => .pure _
  | notify n latency =>
    exact .onNotification (Q := fun v => v.journal.TakesRecords) fun _ h =>
      Journal.takesRecords_record h _ _
  | reset => exact hsteady.keeps_resetManually.bind fun _ => .pure _
  | enable => exact w.keeps_takesRecords_enableDiagnostics.bind fun _ => .pure _
  | disable => exact w.keeps_takesRecords_disableDiagnostics
  | shutdown =>
    exact (hsteady.keeps_onMonitor _).bind fun _ => w.keeps_takesRecords_disableDiagnostics

end Watchdog

/-! ### Scenes in which nothing is done -/

/-- Between the two scenes nothing was done but for records, and for the loop of the monitor. -/
structure Scene.Idle (s s' : Scene σ Watch) : Prop where
  engine : s'.engine = s.engine
  counter : s'.around.monitor.counter = s.around.monitor.counter
  status : s'.around.status = s.around.status
  deliveries : s'.around.deliveries = s.around.deliveries
  clock : s'.around.journal.clock = s.around.journal.clock
  recording : s'.around.journal.isRecording = s.around.journal.isRecording

namespace Scene.Idle

protected lemma refl (s : Scene σ Watch) : s.Idle s := ⟨rfl, rfl, rfl, rfl, rfl, rfl⟩

variable {s s' : Scene σ Watch}

lemma of_journal (h : s.Idle s') {j : Journal} (hclock : j.clock = s'.around.journal.clock)
    (hrecording : j.isRecording = s'.around.journal.isRecording) :
    s.Idle { s' with around := { s'.around with journal := j } } :=
  ⟨h.engine, h.counter, h.status, h.deliveries, hclock.trans h.clock,
    hrecording.trans h.recording⟩

lemma record (h : s.Idle s') (category : Option Category) (message : String) :
    s.Idle { s' with around := { s'.around with
      journal := (s'.around.journal.record category message).2 } } :=
  h.of_journal (by simp) (by simp)

end Scene.Idle

namespace Watchdog

variable (w : Watchdog σ) {s : Scene σ Watch} {cause : ClockFault}

/-- The time of day is what the clock gives, if it gives any. -/
lemma run_clockText (s : Scene σ Watch) :
    (Work.clockText : Work σ String).run.run s =
      ((s.around.journal.clock.read.map fun now => (Civil.ofMoment now).clockText).mapError
        .clock, s) := by
  rw [Work.clockText, Work.now, run_run_bind, run_watch_bind]
  cases s.around.journal.clock.read <;> rfl

/-- A notification is recorded and does nothing else. -/
lemma idle_onNotification (n : Notification) (latency : Span) (s : Scene σ Watch) :
    s.Idle ((onNotification n latency : Work σ Unit).run.run s).2 := by
  rw [onNotification_eq, run_note]
  exact (Scene.Idle.refl s).record _ _

/-- A reset that the user asks for begins with a record. If the session cannot take it, that is
all. -/
lemma run_resetManually_of_unreadable (hread : s.around.journal.clock.read = .error cause)
    (hr : s.around.journal.isRecording = true) :
    (w.resetManually.run.run s).1 = .error (.clock cause) ∧
      s.Idle (w.resetManually.run.run s).2 := by
  have hidle := (Scene.Idle.refl s).record (some .info) manualText
  rw [resetManually, run_run_bind, run_note]
  rw [Journal.record_of_unreadable hread hr] at hidle
  simp only [Journal.info, Journal.record_of_unreadable hread hr, Except.mapError]
  exact ⟨trivial, hidle⟩

/-- A clock that cannot be read keeps a session from being opened. -/
lemma idle_enableDiagnostics (hread : s.around.journal.clock.read = .error cause) :
    s.Idle (w.enableDiagnostics.run.run s).2 := by
  cases hr : s.around.journal.isRecording with
  | true =>
    rw [run_enableDiagnostics_of_recording w hr]
    exact .refl s
  | false =>
    have hnone : s.around.journal.session = none := by simpa [Journal.isRecording] using hr
    rw [run_enableDiagnostics_of_not_recording w hr, startSession, run_run_bind,
      run_openSession_of_not_recording w hr]
    dsimp only
    cases hcreate : (Session.create s.around.journal.disk s.around.journal.clock w.config.origin
      w.config.logDirectory w.config.logBase w.config.role w.config.helper).1 with
    | error e =>
      cases e <;> exact (Scene.Idle.refl s).of_journal rfl (by simp [Journal.isRecording, hnone])
    | ok session =>
      obtain ⟨now, hnow⟩ := Session.clock_read_of_create_eq_ok hcreate
      cases hread.symm.trans hnow

/-- It keeps a session from being closed, too: leaving the mode begins with a record, and that is
all. -/
lemma run_disableDiagnostics_of_unreadable (hread : s.around.journal.clock.read = .error cause)
    (hr : s.around.journal.isRecording = true) :
    w.disableDiagnostics.run.run s =
      (.error (.clock cause), { s with around := { s.around with
        journal := (s.around.journal.record (some .info) "Diagnostic mode disabled").2 } }) := by
  rw [disableDiagnostics, run_watch_bind, if_pos hr, run_run_bind, run_note]
  simp only [Journal.info, Journal.record_of_unreadable hread hr, Except.mapError]

lemma idle_disableDiagnostics (hread : s.around.journal.clock.read = .error cause) :
    s.Idle (w.disableDiagnostics.run.run s).2 := by
  cases hr : s.around.journal.isRecording with
  | false =>
    rw [run_disableDiagnostics_of_not_recording w hr]
    exact .refl s
  | true =>
    rw [w.run_disableDiagnostics_of_unreadable hread hr]
    exact (Scene.Idle.refl s).record _ _

lemma idle_shutdown (hread : s.around.journal.clock.read = .error cause) :
    s.Idle (w.shutdown.run.run s).2 := by
  let stopped : Scene σ Watch :=
    { s with around := { s.around with monitor := s.around.monitor.stop } }
  have hrun : w.shutdown.run.run s = w.disableDiagnostics.run.run stopped := rfl
  have hidle : stopped.Idle (w.disableDiagnostics.run.run stopped).2 :=
    w.idle_disableDiagnostics hread
  rw [hrun]
  exact ⟨hidle.engine, hidle.counter, hidle.status, hidle.deliveries, hidle.clock,
    hidle.recording⟩

/-! ### Polling -/

/-- The scene in which the monitor has taken in one look at the clipboard. -/
def told (s : Scene σ Watch) (o : Observation) : Scene σ Watch :=
  { s with around := { s.around with monitor := { s.around.monitor with
    counter := (s.around.monitor.counter.take (w.reading o)).2 } } }

lemma run_tick_told (o : Observation) (s : Scene σ Watch) :
    (w.tick o).run.run s =
      ((Poll.ofOutcome s.around.journal.clock
        (s.around.monitor.counter.take (w.reading o)).1).mapError .clock, w.told s o) :=
  run_tick o s

/-- What a tick comes to whose clock cannot be read: there is no fault if there is nothing to
tell. -/
def unreadableTick {α : Type} (cause : ClockFault) : PollOutcome → Except Fault (Option α)
  | .inaccessible | .changed _ => .error (.clock cause)
  | .noText | .unchanged => .ok none

lemma run_lead_of_inaccessible (hread : s.around.journal.clock.read = .error cause) {poll : Poll}
    (hpoll : poll.outcome = .inaccessible) :
    ((w.lead poll).run.run s).1 = .error (.clock cause) ∧ s.Idle ((w.lead poll).run.run s).2 := by
  let message := "Clipboard inaccessible (read failed or exceeded " ++
    Text.decimal w.config.readLimit.millis ++ "ms)"
  have hidle := (Scene.Idle.refl s).record (some .warn) message
  simp only [lead, hpoll]
  rw [run_run_bind, run_note]
  cases hr : s.around.journal.isRecording with
  | true =>
    rw [Journal.record_of_unreadable hread hr] at hidle
    simp only [Journal.warn, Journal.record_of_unreadable hread hr, Except.mapError]
    exact ⟨trivial, hidle⟩
  | false =>
    have htakes := Journal.takesRecords_of_not_recording hr
    simp only [Journal.warn, Journal.record_fst_of_takesRecords htakes, Except.mapError]
    rw [run_run_bind, run_clockText]
    simp only [Journal.clock_record, hread]
    exact ⟨rfl, hidle⟩

/-- A tick whose clock cannot be read counts its copy and gives no reason for a reset. -/
lemma run_leadPoll_of_unreadable (hread : s.around.journal.clock.read = .error cause)
    (o : Observation) :
    ((w.leadPoll o).run.run s).1 =
        unreadableTick cause (s.around.monitor.counter.take (w.reading o)).1 ∧
      (w.told s o).Idle ((w.leadPoll o).run.run s).2 := by
  rw [leadPoll, run_run_bind, run_tick_told]
  cases (s.around.monitor.counter.take (w.reading o)).1 with
  | inaccessible => exact w.run_lead_of_inaccessible (s := w.told s o) hread rfl
  | noText => exact ⟨rfl, .refl _⟩
  | unchanged => exact ⟨rfl, .refl _⟩
  | changed copy =>
    -- the copy has been counted, and there is no time for its snapshot
    rw [Poll.ofOutcome, hread]
    exact ⟨rfl, .refl _⟩

lemma run_pollOnce_of_unreadable (hread : s.around.journal.clock.read = .error cause)
    (o : Observation) :
    ((w.pollOnce o).run.run s).1 =
        unreadableTick cause (s.around.monitor.counter.take (w.reading o)).1 ∧
      (w.told s o).Idle ((w.pollOnce o).run.run s).2 := by
  obtain ⟨hresult, hidle⟩ := w.run_leadPoll_of_unreadable hread o
  rw [pollOnce_eq, run_run_bind]
  revert hresult hidle
  rcases (w.leadPoll o).run.run s with ⟨result, s'⟩
  rintro rfl hidle
  cases (s.around.monitor.counter.take (w.reading o)).1 <;> exact ⟨rfl, hidle⟩

/-! ### All that is asked of a watchdog -/

/-- Where the clock cannot be read, only a manual reset without a session reaches the engine. -/
lemma idle_next {step : Clock × Operation} (hread : step.1.read = .error cause)
    (hpoll : ∀ o, step.2 ≠ .poll o)
    (hreset : step.2 = .reset → s.around.journal.isRecording = true) :
    (s.withClock step.1).Idle (w.next s step) := by
  obtain ⟨clock, op⟩ := step
  cases op with
  | poll o => exact absurd rfl (hpoll o)
  | notify n latency => exact idle_onNotification n latency _
  | reset =>
    rw [next_reset]
    exact (w.run_resetManually_of_unreadable (s := s.withClock clock) hread (hreset rfl)).2
  | enable =>
    rw [next_enable]
    exact w.idle_enableDiagnostics (s := s.withClock clock) hread
  | disable => exact w.idle_disableDiagnostics (s := s.withClock clock) hread
  | shutdown => exact w.idle_shutdown (s := s.withClock clock) hread

/-- Where records are not taken, nothing that is asked of a watchdog reaches the engine. -/
lemma engine_next_of_not_takesRecords {step : Clock × Operation}
    (h : ¬(s.withClock step.1).around.journal.TakesRecords) :
    (w.next s step).engine = s.engine := by
  obtain ⟨hr, cause, hread⟩ := Journal.not_takesRecords_iff.mp h
  obtain ⟨clock, op⟩ := step
  cases op with
  | poll o =>
    rw [next_poll]
    exact (w.run_pollOnce_of_unreadable (s := s.withClock clock) hread o).2.engine
  | _ => exact (w.idle_next (s := s) hread (fun _ => by simp) fun _ => hr).engine

end Watchdog

end ClipboardWatchdog
