import ClipboardWatchdog.Proofs.Watchdog.SessionFiles
import ClipboardWatchdog.Proofs.Watchdog.UnreadableClock

/-!
# What a watchdog does to its journal

Beside the operations, a watchdog is asked to start polling, to look at the helper, and to take a
turn in the background. Whatever it is asked for, it does to its journal what is told by a row of
events (`Watchdog.Emits`): it sends records, and only where diagnostic mode is entered or left there
are other events. A `History` is the row of events of a whole run.
-/

namespace ClipboardWatchdog

variable {σ : Type}

/-- All that is asked of a watchdog. -/
inductive Activity
  | operation (op : Operation)
  | start
  | health
  | turn (o : Observation)

/-- The titles among some events. -/
def Event.titles (events : List Event) : List String :=
  events.filterMap fun
    | .title t => some t
    | _ => none

lemma Event.titles_append (front back : List Event) :
    titles (front ++ back) = titles front ++ titles back := List.filterMap_append

namespace Watchdog

variable (w : Watchdog σ)

/-- Does what is asked. -/
def undertake : Activity → Work σ Unit
  | .operation op => w.perform op
  | .start => w.start
  | .health => do let _ ← w.health
  | .turn o => w.turn o

/-- The scene after an activity at the time that a clock shows. -/
def serve (s : Scene σ Watch) (step : Clock × Activity) : Scene σ Watch :=
  ((w.undertake step.2).run.run (s.withClock step.1)).2

/-- The scene after a row of activities. -/
def served (s : Scene σ Watch) (steps : List (Clock × Activity)) : Scene σ Watch :=
  steps.foldl w.serve s

lemma served_concat (s : Scene σ Watch) (steps : List (Clock × Activity))
    (step : Clock × Activity) : w.served s (steps ++ [step]) = w.serve (w.served s steps) step :=
  List.foldl_concat ..

/-! ### The events of an activity -/

/-- The event is a record that the watchdog sends. -/
def Sent : Event → Prop
  | .record category message => w.Sends category message
  | _ => False

/-- The titles that a session begins with. -/
def sectionTitles : List String := ["INITIAL STATE", "EVENTS"]

/-- Entering the mode: no session may come of it; else old files are removed and the state of things
is recorded, with each title at most once and in order. -/
def Enters (events : List Event) : Prop :=
  events = [.start] ∨ ∃ rest, events = .start :: .sweep :: rest ∧
    (∀ e ∈ rest, w.Sent e ∨ ∃ t, e = .title t) ∧ Event.titles rest <+: sectionTitles

/-- Leaving the mode: one record, after which the session is finished if the clock can be read. -/
def Leaves (clock : Clock) (events : List Event) : Prop :=
  (∃ now, clock.read = .ok now) ∧
      events = [.record .info "Diagnostic mode disabled", .finish] ∨
    (∀ now, clock.read ≠ .ok now) ∧ events = [.record .info "Diagnostic mode disabled"]

/-- What an activity does to the journal at the time that a clock shows, with a session attached or
not. -/
def Emits (clock : Clock) (recording : Bool) : Activity → List Event → Prop
  | .operation (.notify n latency), events => events = [.record n.category (n.line latency)]
  | .operation .enable, events => if recording then events = [] else w.Enters events
  | .operation .disable, events => if recording then Leaves clock events else events = []
  | .operation .shutdown, events => if recording then Leaves clock events else events = []
  | _, events => ∀ e ∈ events, w.Sent e

/-! ### Records -/

/-- From a journal on, there have been these titles, and records that the watchdog sends. -/
def Goes (j : Journal) (titles : List String) (v : Watch) : Prop :=
  ∃ events, v.journal = j.after w.config events ∧ (∀ e ∈ events, w.Sent e ∨ ∃ t, e = .title t) ∧
    Event.titles events = titles

variable {w} {j : Journal} {titles : List String}

lemma routine_goes : w.Routine (w.Goes j titles) where
  monitor _ _ h := h
  status _ _ _ h := h
  deliveries _ _ h := h
  record v category message hsent := by
    rintro ⟨events, hjournal, hevents, htitles⟩
    refine ⟨events ++ [.record category message], ?_, ?_, ?_⟩
    · rw [Journal.after_concat, ← hjournal]
      rfl
    · intro e he
      rcases List.mem_append.mp he with he | he
      · exact hevents e he
      · rw [List.mem_singleton.mp he]
        exact .inl hsent
    · rw [Event.titles_append, htitles]
      exact List.append_nil _

lemma goes_addSection {v : Watch} (h : w.Goes j titles v) (title : String) :
    w.Goes j (titles ++ [title]) { v with journal := v.journal.addSection title } := by
  obtain ⟨events, hjournal, hevents, rfl⟩ := h
  refine ⟨events ++ [.title title], ?_, ?_, ?_⟩
  · rw [Journal.after_concat, ← hjournal]
    rfl
  · intro e he
    rcases List.mem_append.mp he with he | he
    · exact hevents e he
    · exact .inr ⟨title, List.mem_singleton.mp he⟩
  · rw [Event.titles_append]
    rfl

/-- Where there have been no titles, there have been records only. -/
lemma Goes.sent {v : Watch} (h : w.Goes j [] v) :
    ∃ events, v.journal = j.after w.config events ∧ ∀ e ∈ events, w.Sent e := by
  obtain ⟨events, hjournal, hevents, htitles⟩ := h
  refine ⟨events, hjournal, fun e he => (hevents e he).resolve_right ?_⟩
  rintro ⟨t, rfl⟩
  have hmem : t ∈ Event.titles events := List.mem_filterMap.mpr ⟨_, he, rfl⟩
  rw [htitles] at hmem
  cases hmem

/-! ### Entering the mode -/

/-- Recording the state of things gives each title once and in order; what is broken off gives some
of them. -/
lemma ends_recordState :
    Ends (fun s : Scene σ Watch => w.Goes j [] s.around) w.recordState
      (fun _ s => w.Goes j sectionTitles s.around)
      fun _ s => ∃ titles, titles <+: sectionTitles ∧ w.Goes j titles s.around := by
  have hkeep {α : Type} {a : Work σ α} {titles : List String}
      (h : Keeps (fun s : Scene σ Watch => w.Goes j titles s.around) a)
      (htitles : titles <+: sectionTitles) :
      Ends (fun s : Scene σ Watch => w.Goes j titles s.around) a
        (fun _ s => w.Goes j titles s.around)
        fun _ s => ∃ titles, titles <+: sectionTitles ∧ w.Goes j titles s.around :=
    (Ends.of_keeps h).imp (fun _ => id) (fun _ _ => id) fun _ _ hs => ⟨titles, htitles, hs⟩
  have hsection (titles : List String) (title : String) :
      Ends (fun s : Scene σ Watch => w.Goes j titles s.around)
        (Work.onJournal (·.addSection title) : Work σ Unit)
        (fun _ s => w.Goes j (titles ++ [title]) s.around)
        fun _ s => ∃ titles, titles <+: sectionTitles ∧ w.Goes j titles s.around :=
    .modify fun _ hs => goes_addSection hs title
  have hone : ["INITIAL STATE"] <+: sectionTitles := List.prefix_append _ ["EVENTS"]
  have hall : sectionTitles <+: sectionTitles := List.prefix_rfl
  refine (hsection [] "INITIAL STATE").bind fun _ => ?_
  refine (hkeep routine_goes.keeps_recordHealth hone).bind fun _ => ?_
  refine (hkeep Keeps.watch hone).bind fun _ => (hkeep Keeps.runs hone).bind fun _ => ?_
  refine (hkeep (routine_goes.keeps_record (.counts _ _)) hone).bind fun _ => ?_
  refine (hsection ["INITIAL STATE"] "EVENTS").bind fun _ => ?_
  exact hkeep (routine_goes.keeps_record .unavailable) hall

variable (w)

/-- Removing old files is a sweep, and a record if there were any. -/
lemma goes_removeOld (s : Scene σ Watch) :
    w.Goes (s.around.journal.next w.config .sweep) [] (w.removeOld.run.run s).2.around := by
  have hroutine : w.Routine (w.Goes (s.around.journal.next w.config .sweep) []) := routine_goes
  have hsweep : w.Goes (s.around.journal.next w.config .sweep) []
      { s.around with journal := s.around.journal.next w.config .sweep } :=
    ⟨[], rfl, by simp, rfl⟩
  unfold removeOld
  rw [run_note]
  dsimp only [Journal.noteRemoved]
  split
  · exact hroutine.record _ _ _ (.removed _) hsweep
  · exact hsweep

/-- Making and attaching the file of a session is the start of a session. -/
lemma journal_openSession {s : Scene σ Watch} (hoff : s.around.journal.isRecording = false) :
    (w.openSession.run.run s).2.around.journal = s.around.journal.next w.config .start := by
  have hnone : s.around.journal.session = none := by simpa [Journal.isRecording] using hoff
  rw [w.run_openSession_of_not_recording hoff]
  unfold Journal.next
  dsimp only
  rcases Session.create s.around.journal.disk s.around.journal.clock w.config.origin
    w.config.logDirectory w.config.logBase w.config.role w.config.helper with
    ⟨(e | cause) | session, disk⟩
  · simp [hnone]
  · simp [hnone]
  · simp [Journal.attach, Journal.detach, hnone]

lemma enters_startSession {s : Scene σ Watch} (hoff : s.around.journal.isRecording = false) :
    ∃ events, (w.startSession.run.run s).2.around.journal =
      s.around.journal.after w.config events ∧ w.Enters events := by
  have hopen := w.journal_openSession hoff
  have hfailed {s₁ : Scene σ Watch}
      (h : s₁.around.journal = s.around.journal.next w.config .start) :
      ∃ events, s₁.around.journal = s.around.journal.after w.config events ∧ w.Enters events :=
    ⟨[.start], h, .inl rfl⟩
  have hgoes {s₁ s₂ : Scene σ Watch} {titles : List String}
      (h : s₁.around.journal = s.around.journal.next w.config .start)
      (hs : w.Goes (s₁.around.journal.next w.config .sweep) titles s₂.around)
      (htitles : titles <+: sectionTitles) :
      ∃ events, s₂.around.journal = s.around.journal.after w.config events ∧ w.Enters events := by
    obtain ⟨rest, hjournal, hrest, rfl⟩ := hs
    rw [h] at hjournal
    exact ⟨.start :: .sweep :: rest, hjournal, .inr ⟨rest, rfl, hrest, htitles⟩⟩
  unfold startSession
  rw [run_run_bind]
  revert hopen
  rcases w.openSession.run.run s with ⟨fault | e | ⟨⟩, s₁⟩
  · exact hfailed
  · exact hfailed
  · intro hopen
    dsimp only
    have hremoved := w.goes_removeOld s₁
    rw [run_run_bind]
    revert hremoved
    rcases w.removeOld.run.run s₁ with ⟨fault | _, s₂⟩
    · exact fun hremoved => hgoes hopen hremoved List.nil_prefix
    · intro hremoved
      dsimp only
      have hrecorded := ends_recordState s₂ hremoved
      rw [run_run_bind]
      revert hrecorded
      rcases w.recordState.run.run s₂ with ⟨fault | _, s₃⟩
      · exact fun ⟨titles, htitles, hrecorded⟩ => hgoes hopen hrecorded htitles
      · exact fun hrecorded => hgoes hopen hrecorded List.prefix_rfl

/-- Telling that the mode is on has no part in the journal. -/
lemma enters_enableDiagnostics {s : Scene σ Watch} (hoff : s.around.journal.isRecording = false) :
    ∃ events, (w.enableDiagnostics.run.run s).2.around.journal =
      s.around.journal.after w.config events ∧ w.Enters events := by
  have hstart := w.enters_startSession hoff
  rw [w.run_enableDiagnostics_of_not_recording hoff]
  revert hstart
  rcases w.startSession.run.run s with ⟨fault | e | ⟨⟩, s₁⟩
  · exact id
  · exact id
  · dsimp only
    rw [(w.run_announceSession_snd s₁).1]
    exact id

/-- Entering the mode does nothing where it is on. -/
lemma journal_enableDiagnostics (s : Scene σ Watch) :
    ∃ events, (w.enableDiagnostics.run.run s).2.around.journal =
        s.around.journal.after w.config events ∧
      if s.around.journal.isRecording then events = [] else w.Enters events := by
  cases hr : s.around.journal.isRecording with
  | true =>
    rw [w.run_enableDiagnostics_of_recording hr]
    exact ⟨[], rfl, rfl⟩
  | false => exact w.enters_enableDiagnostics hr

/-! ### Leaving the mode -/

lemma leaves_disableDiagnostics {s : Scene σ Watch} (hon : s.around.journal.isRecording = true) :
    ∃ events, (w.disableDiagnostics.run.run s).2.around.journal =
      s.around.journal.after w.config events ∧ Leaves s.around.journal.clock events := by
  let message := "Diagnostic mode disabled"
  cases hread : s.around.journal.clock.read with
  | error cause =>
    refine ⟨[.record .info message], ?_, .inr ⟨by simp [hread], rfl⟩⟩
    rw [w.run_disableDiagnostics_of_unreadable hread hon]
    rfl
  | ok now =>
    refine ⟨[.record .info message, .finish], ?_, .inl ⟨⟨now, hread⟩, rfl⟩⟩
    have hrecord := Journal.record_fst_of_takesRecords (Journal.takesRecords_of_read hread)
      (some .info) message
    have hread' : (s.around.journal.record (some .info) message).2.clock.read = .ok now := by
      rw [Journal.clock_record]
      exact hread
    obtain ⟨path, hpath⟩ := Journal.detach_fst_of_read hread'
    have hemit : Keeps (fun s' : Scene σ Watch => s'.around.journal =
        s.around.journal.after w.config [.record .info message, .finish]) w.emit :=
      .emit (Q := fun v => v.journal =
        s.around.journal.after w.config [.record .info message, .finish]) (fun _ _ h => h) w
    unfold disableDiagnostics
    rw [run_watch_bind, if_pos hon, run_run_bind, run_note]
    simp only [Journal.info, message, hrecord, Except.mapError]
    rw [run_run_bind, run_note]
    simp only [message] at hpath
    simp only [hpath, Except.mapError]
    exact hemit _ rfl

/-- Leaving the mode does nothing where it is off. -/
lemma journal_disableDiagnostics (s : Scene σ Watch) :
    ∃ events, (w.disableDiagnostics.run.run s).2.around.journal =
        s.around.journal.after w.config events ∧
      if s.around.journal.isRecording then Leaves s.around.journal.clock events
      else events = [] := by
  cases hr : s.around.journal.isRecording with
  | true => exact w.leaves_disableDiagnostics hr
  | false =>
    rw [w.run_disableDiagnostics_of_not_recording hr]
    exact ⟨[], rfl, rfl⟩

/-! ### Rows of events -/

variable {w} {Q : Watch → Prop}

lemma Routine.keeps_start (hQ : w.Routine Q) :
    Keeps (fun s : Scene σ Watch => Q s.around) w.start :=
  (hQ.keeps_record .started).bind fun _ => hQ.keeps_recordHealth.bind fun _ =>
    (hQ.keeps_onMonitor _).bind fun _ => hQ.keeps_emit

lemma Routine.keeps_turn (hQ : w.Routine Q) (o : Observation) :
    Keeps (fun s : Scene σ Watch => Q s.around) (w.turn o) :=
  Keeps.watch.bind fun _ => .ite
    (.tryCatch ((hQ.keeps_pollOnce o).bind fun _ => .pure _) fun _ => .pure _) (.pure _)

variable (w)

/-- What an activity does to the journal is told by a row of events. -/
lemma emits_serve (s : Scene σ Watch) (step : Clock × Activity) :
    ∃ events, (w.serve s step).around.journal =
        s.around.journal.after w.config (.clock step.1 :: events) ∧
      w.Emits step.1 s.around.journal.isRecording step.2 events := by
  obtain ⟨clock, activity⟩ := step
  let s₀ := s.withClock clock
  let j := s₀.around.journal
  have hgoes : w.Goes j [] s₀.around := ⟨[], rfl, by simp, rfl⟩
  have hroutine : w.Routine (w.Goes j []) := routine_goes
  have hsent {activity : Activity}
      (h : Keeps (fun s => w.Goes j [] s.around) (w.undertake activity)) :
      ∃ events, (w.serve s (clock, activity)).around.journal = j.after w.config events ∧
        ∀ e ∈ events, w.Sent e :=
    (h s₀ hgoes).sent
  cases activity with
  | operation op =>
    cases op with
    | poll o => exact hsent ((hroutine.keeps_pollOnce o).bind fun _ => .pure _)
    | reset => exact hsent (hroutine.keeps_resetManually.bind fun _ => .pure _)
    | notify n latency =>
      refine ⟨[.record n.category (n.line latency)], ?_, rfl⟩
      change ((onNotification n latency : Work σ Unit).run.run s₀).2.around.journal = _
      rw [onNotification_eq, run_note]
      rfl
    | enable =>
      have hrun : w.serve s (clock, .operation .enable) = (w.enableDiagnostics.run.run s₀).2 :=
        w.next_enable s clock
      rw [hrun]
      exact w.journal_enableDiagnostics s₀
    | disable => exact w.journal_disableDiagnostics s₀
    | shutdown =>
      exact w.journal_disableDiagnostics
        { s₀ with around := { s₀.around with monitor := s₀.around.monitor.stop } }
  | start => exact hsent hroutine.keeps_start
  | health => exact hsent (hroutine.keeps_health.bind fun _ => .pure _)
  | turn o => exact hsent (hroutine.keeps_turn o)

/-! ### Whole runs -/

/-- The events of a run: each activity brings its time and what it does to the journal. -/
inductive History : Scene σ Watch → List (Clock × Activity) → List Event → Prop
  | nil (s : Scene σ Watch) : History s [] []
  | cons {s : Scene σ Watch} {step : Clock × Activity} {steps : List (Clock × Activity)}
      {row events : List Event}
      (hrow : w.Emits step.1 s.around.journal.isRecording step.2 row)
      (hjournal : (w.serve s step).around.journal =
        s.around.journal.after w.config (.clock step.1 :: row))
      (hrest : History (w.serve s step) steps events) :
      History s (step :: steps) (.clock step.1 :: row ++ events)

lemma exists_history (s : Scene σ Watch) (steps : List (Clock × Activity)) :
    ∃ events, w.History s steps events := by
  induction steps generalizing s with
  | nil => exact ⟨[], .nil s⟩
  | cons step steps ih =>
    obtain ⟨row, hjournal, hrow⟩ := w.emits_serve s step
    obtain ⟨events, hrest⟩ := ih (w.serve s step)
    exact ⟨_, .cons hrow hjournal hrest⟩

variable {w} {s : Scene σ Watch} {steps : List (Clock × Activity)} {events : List Event}

/-- The journal after a run is what its events make of the journal before. -/
lemma History.journal (h : w.History s steps events) :
    (w.served s steps).around.journal = s.around.journal.after w.config events := by
  induction h with
  | nil s => rfl
  | @cons s step steps row events hrow hjournal hrest ih =>
    have hserved : w.served s (step :: steps) = w.served (w.serve s step) steps := rfl
    rw [hserved, ih, hjournal, Journal.after_append]

/-- The notification was told of in the course of the run. -/
def Tells (steps : List (Clock × Activity)) (n : Notification) : Prop :=
  ∃ clock latency, (clock, .operation (.notify n latency)) ∈ steps

/-- An activity sends records, or a notification is recorded, or the mode is entered or left. -/
lemma emits_cases {clock : Clock} {recording : Bool} {activity : Activity} {row : List Event}
    (h : w.Emits clock recording activity row) :
    (∀ e ∈ row, w.Sent e) ∨
      (∃ n latency, activity = .operation (.notify n latency) ∧
        row = [.record n.category (n.line latency)]) ∨
      activity = .operation .enable ∧ recording = false ∧ w.Enters row ∨
      recording = true ∧ Leaves clock row := by
  have hleaves (h : if recording then Leaves clock row else row = []) :
      (∀ e ∈ row, w.Sent e) ∨ recording = true ∧ Leaves clock row := by
    cases recording with
    | true => exact .inr ⟨rfl, h⟩
    | false =>
      obtain rfl : row = [] := h
      exact .inl (by simp)
  cases activity with
  | operation op =>
    cases op with
    | poll o => exact .inl h
    | reset => exact .inl h
    | notify n latency => exact .inr (.inl ⟨n, latency, rfl, h⟩)
    | enable =>
      cases recording with
      | true =>
        obtain rfl : row = [] := h
        exact .inl (by simp)
      | false => exact .inr (.inr (.inl ⟨rfl, rfl, h⟩))
    | disable => exact (hleaves h).imp_right fun h => .inr (.inr h)
    | shutdown => exact (hleaves h).imp_right fun h => .inr (.inr h)
  | start => exact .inl h
  | health => exact .inl h
  | turn o => exact .inl h

/-- A record is one that the watchdog makes of its own accord, or it is that of a notification. -/
lemma record_of_emits {clock : Clock} {recording : Bool} {activity : Activity} {row : List Event}
    {category : Category} {message : String} (h : w.Emits clock recording activity row)
    (hmem : .record category message ∈ row) :
    w.Sends category message ∨ ∃ n latency, activity = .operation (.notify n latency) ∧
      category = n.category ∧ message = n.line latency := by
  rcases emits_cases h with hsent | ⟨n, latency, rfl, rfl⟩ | ⟨-, -, henters⟩ | ⟨-, hleaves⟩
  · exact .inl (hsent _ hmem)
  · obtain ⟨rfl, rfl⟩ := Event.record.inj (List.mem_singleton.mp hmem)
    exact .inr ⟨n, latency, rfl, rfl, rfl⟩
  · left
    rcases henters with rfl | ⟨rest, rfl, hrest, -⟩
    · cases List.mem_singleton.mp hmem
    · simp only [List.mem_cons, reduceCtorEq, false_or] at hmem
      rcases hrest _ hmem with hsent | ⟨t, ⟨⟩⟩
      exact hsent
  · left
    rcases hleaves with ⟨-, rfl⟩ | ⟨-, rfl⟩
    all_goals
      simp only [List.mem_cons, Event.record.injEq, reduceCtorEq, List.not_mem_nil, or_false]
        at hmem
      obtain ⟨rfl, rfl⟩ := hmem
      exact .disabled

lemma History.record (h : w.History s steps events) {category : Category} {message : String}
    (hmem : .record category message ∈ events) :
    w.Sends category message ∨ ∃ n latency, Tells steps n ∧ category = n.category ∧
      message = n.line latency := by
  induction h with
  | nil s => cases hmem
  | @cons s step steps row events hrow hjournal hrest ih =>
    obtain ⟨clock, activity⟩ := step
    rw [List.cons_append, List.mem_cons, List.mem_append] at hmem
    rcases hmem with ⟨⟨⟩⟩ | hmem | hmem
    · rcases record_of_emits hrow hmem with hsent | ⟨n, latency, rfl, hn⟩
      · exact .inl hsent
      · exact .inr ⟨n, latency, ⟨clock, latency, List.mem_cons_self⟩, hn⟩
    · rcases ih hmem with hsent | ⟨n, latency, ⟨clock', latency', htold⟩, hn⟩
      · exact .inl hsent
      · exact .inr ⟨n, latency, ⟨clock', latency', List.mem_cons_of_mem _ htold⟩, hn⟩

/-! ### Runs whose events fit -/

open Journal

lemma isInside_of_sent {e : Event} (h : w.Sent e) : e.IsInside := by
  cases e with
  | record category message => trivial
  | _ => exact h.elim

/-- A session is started only where the mode is entered. -/
lemma not_mem_start_of_emits {clock : Clock} {recording : Bool} {activity : Activity}
    {row : List Event} (h : w.Emits clock recording activity row)
    (hne : activity ≠ .operation .enable ∨ recording = true) : .start ∉ row := by
  intro hmem
  rcases emits_cases h with hsent | ⟨n, latency, rfl, rfl⟩ | ⟨rfl, rfl, -⟩ | ⟨-, hleaves⟩
  · exact hsent _ hmem
  · cases List.mem_singleton.mp hmem
  · simp at hne
  · rcases hleaves with ⟨-, rfl⟩ | ⟨-, rfl⟩ <;> simp at hmem

/-- Sessions are started only where none is attached, and finished only where the clock can be
read. -/
lemma fits_of_emits {j : Journal} {activity : Activity} {row : List Event}
    (h : w.Emits j.clock j.isRecording activity row) : j.Fits w.config row := by
  rcases emits_cases h with hsent | ⟨n, latency, -, rfl⟩ | ⟨-, hoff, henters⟩ | ⟨-, hleaves⟩
  · exact fits_of_inside fun e he => isInside_of_sent (hsent e he)
  · exact fits_of_inside (by simp [Event.IsInside])
  · have hnone : j.session = none := by simpa [isRecording] using hoff
    rcases henters with rfl | ⟨rest, rfl, hrest, -⟩
    · exact ⟨fun _ => hnone, by simp, trivial⟩
    · refine ⟨fun _ => hnone, by simp, by simp, by simp, fits_of_inside fun e he => ?_⟩
      rcases hrest e he with hsent | ⟨t, rfl⟩
      · exact isInside_of_sent hsent
      · trivial
  · rcases hleaves with ⟨⟨now, hread⟩, rfl⟩ | ⟨-, rfl⟩
    · refine ⟨by simp, by simp, by simp, fun _ => ⟨now, ?_⟩, trivial⟩
      rw [clock_next]
      exact hread
    · exact fits_of_inside (by simp [Event.IsInside])

lemma History.fits (h : w.History s steps events) : s.around.journal.Fits w.config events := by
  induction h with
  | nil s => trivial
  | @cons s step steps row events hrow hjournal hrest ih =>
    rw [fits_append_iff, ← hjournal]
    exact ⟨⟨by simp, by simp, fits_of_emits (j := s.around.journal.next w.config (.clock step.1))
      hrow⟩, ih⟩

end Watchdog

end ClipboardWatchdog
