import ClipboardWatchdog.Proofs.Helper.Agreeing
import ClipboardWatchdog.Proofs.Helper.Requests
import ClipboardWatchdog.Proofs.Watchdog.PollingResets
import ClipboardWatchdog.Proofs.Watchdog.UnreadableClock

/-!
# Diagnostic mode only observes

Entering and leaving diagnostic mode and recording notifications look at the helper and write to the
journal, and do nothing else. Two watchdogs, of which one never enters the mode, poll and reset
alike: their scenes match (`Scene.Matches`) after every operation, and each operation of the one
comes to what it comes to for the other. The records of a session need the time of day, and so a
manual reset may be broken off in the mode that would be carried out without it; at all other points
where the clock matters, it matters to both.
-/

namespace ClipboardWatchdog

variable {σ α : Type}

/-- The call does something to the processes. -/
def Call.acts : Call → Bool
  | find _ | sample _ => false
  | terminate _ | launch _ => true

/-- The calls of an engine that have done something to the processes. -/
def Engine.actions (e : Engine σ) : List Call := e.calls.filter Call.acts

/-- Looking for processes and sampling them changes nothing, and the host answers at once. -/
structure Host.Looks (host : Host σ) : Prop where
  find : ∀ name state, ∃ pids, host (.find name) state = .answers pids state
  sample : ∀ pid state, ∃ sample, host (.sample pid) state = .answers sample state

/-- Whether the receiver breaks down has nothing to do with the mode that it is shown. -/
def Watchdog.IgnoresMode (w : Watchdog σ) : Prop :=
  ∀ receive ∈ w.receiver, ∀ (st : Status) (diagnostics : Bool) (copies resets : ℕ),
    receive ⟨({ st with diagnostics } : Status).text, copies, resets⟩ =
      receive ⟨st.text, copies, resets⟩

/-- Two scenes that differ in the mode and in what was told of it. In the second one the mode is
off. -/
structure Scene.Matches (s t : Scene σ Watch) : Prop where
  host : s.engine.host = t.engine.host
  busy : s.engine.busy = t.engine.busy
  runs : s.engine.runs = t.engine.runs
  actions : s.engine.actions = t.engine.actions
  counter : s.around.monitor.counter = t.around.monitor.counter
  status : s.around.status = { t.around.status with diagnostics := s.around.status.diagnostics }
  off : t.around.journal.isRecording = false

/-- Scenes that match at the same time, in the first of which records are taken. -/
structure Scene.Parallel (s t : Scene σ Watch) : Prop where
  matched : s.Matches t
  clock : s.around.journal.clock = t.around.journal.clock
  takes : s.around.journal.TakesRecords

lemma Scene.actions_visited (s : Scene σ Watch) (v : Visit) :
    (s.visited v).engine.actions =
      s.engine.actions ++ ([v].filterMap Visit.call?).filter Call.acts := by
  simp only [Engine.actions, Engine.calls, Scene.visited, List.filterMap_append,
    List.filter_append]

/-- What happens to the engines of both keeps scenes parallel. -/
lemma coupled_parallel : Coupled (Scene.Parallel (σ := σ)) where
  host _ _ h := h.matched.host
  busy _ _ h := h.matched.busy
  runs _ _ h := h.matched.runs
  withHost _ _ _ h := ⟨{ h.matched with host := rfl }, h.clock, h.takes⟩
  visited s t v h := by
    refine ⟨{ h.matched with actions := ?_ }, h.clock, h.takes⟩
    rw [Scene.actions_visited, Scene.actions_visited, h.matched.actions]
  taken _ _ h := ⟨{ h.matched with busy := rfl }, h.clock, h.takes⟩
  freed s t finished h := by
    refine ⟨{ h.matched with busy := rfl, runs := ?_ }, h.clock, h.takes⟩
    simp only [Scene.freed, h.matched.runs]

namespace Agree

/-! ### Two watchdogs at work -/

lemma note (category : Option Category) (message : String) :
    Agree Scene.Parallel (Work.note (·.record category message) : Work σ Unit)
      (Work.note (·.record category message)) := by
  intro s t hst
  have htakes := Journal.takesRecords_of_not_recording hst.matched.off
  rw [run_note, run_note, Journal.record_fst_of_takesRecords hst.takes,
    Journal.record_fst_of_takesRecords htakes]
  refine ⟨rfl, { hst.matched with off := ?_ }, ?_, Journal.takesRecords_record hst.takes _ _⟩
  · exact (Journal.isRecording_record _ _ _).trans hst.matched.off
  · exact (Journal.clock_record _ _ _).trans (hst.clock.trans (Journal.clock_record _ _ _).symm)

lemma onMonitor (f : Monitor → Monitor) (hf : ∀ m, (f m).counter = m.counter) :
    Agree Scene.Parallel (Work.onMonitor f : Work σ Unit) (Work.onMonitor f) := by
  intro s t hst
  exact ⟨rfl, { hst.matched with
    counter := (hf _).trans (hst.matched.counter.trans (hf _).symm) }, hst.clock, hst.takes⟩

lemma clockText : Agree Scene.Parallel (Work.clockText : Work σ String) Work.clockText := by
  intro s t hst
  rw [Watchdog.run_clockText, Watchdog.run_clockText, hst.clock]
  exact ⟨rfl, hst⟩

lemma runs : Agree Scene.Parallel (Work.runs : Work σ ℕ) Work.runs := by
  intro s t hst
  exact ⟨congrArg Except.ok hst.matched.runs, hst⟩

lemma onStatus (f : Status → Status)
    (hf : ∀ st diagnostics, f { st with diagnostics } = { f st with diagnostics }) :
    Agree Scene.Parallel (Work.onStatus f : Work σ Unit) (Work.onStatus f) := by
  intro s t hst
  have hstatus : f s.around.status =
      { f t.around.status with diagnostics := (f s.around.status).diagnostics } := by
    rw [hst.matched.status, hf]
  exact ⟨rfl, { hst.matched with status := hstatus }, hst.clock, hst.takes⟩

variable {w : Watchdog σ} (hw : w.IgnoresMode)

include hw

lemma emit : Agree Scene.Parallel w.emit w.emit := by
  intro s t hst
  obtain ⟨hmatched, hclock, htakes⟩ := hst
  rw [Watchdog.run_emit, Watchdog.run_emit]
  cases hreceiver : w.receiver with
  | none => exact ⟨rfl, hmatched, hclock, htakes⟩
  | some receive =>
    have hsame := hw receive hreceiver t.around.status s.around.status.diagnostics
      t.around.monitor.counter.count t.engine.runs
    rw [← hmatched.status] at hsame
    simp only [Scene.delivery, hmatched.counter, hmatched.runs, hsame]
    exact ⟨trivial, { hmatched with }, hclock, htakes⟩

lemma say (message : String) : Agree Scene.Parallel (w.say message) (w.say message) :=
  (onStatus _ fun _ _ => rfl).bind fun _ => emit hw

/-! ### Resets -/

lemma tell (reason : Reason) (outcome : Outcome) :
    Agree Scene.Parallel (w.tell reason outcome) (w.tell reason outcome) := by
  cases outcome with
  | completed report =>
    have hcount : Agree Scene.Parallel w.showRuns w.showRuns :=
      runs.bind fun n => (onStatus _ fun _ _ => rfl).bind fun _ => emit hw
    refine (Agree.forM (fun _ => note _ _) _).bind fun _ => ?_
    split
    · exact (note _ _).bind fun _ => (note _ _).bind fun _ => clockText.bind fun _ =>
        (say hw _).bind fun _ => hcount
    · exact (note _ _).bind fun _ => (say hw _).bind fun _ => hcount
  | coalesced => exact note _ _
  | failed message => exact (note _ _).bind fun _ => say hw _

omit hw in
lemma dropManual : Agree Scene.Parallel (aside Watch.dropManual : Work σ Unit)
    (aside Watch.dropManual) := by
  simp only [Watch.dropManual, aside_bind]
  exact (note _ _).bind fun _ => (onMonitor (·.pause) fun _ => rfl).bind fun _ =>
    (note _ _).bind fun _ => onMonitor (·.resume) fun _ => rfl

lemma remediate (reason : Reason) :
    Agree Scene.Parallel (w.remediate reason) (w.remediate reason) := by
  rw [Watchdog.remediate_eq]
  exact (Agree.reset coupled_parallel dropManual w.host w.config.helper reason).bind fun outcome =>
    (tell hw reason outcome).bind fun _ => .pure outcome

omit hw in
lemma leadReset : Agree Scene.Parallel (Watchdog.leadReset : Work σ Unit) Watchdog.leadReset :=
  (note _ _).bind fun _ => onMonitor (·.pause) fun _ => rfl

lemma resetManually : Agree Scene.Parallel w.resetManually w.resetManually := by
  rw [Watchdog.resetManually_eq]
  exact leadReset.bind fun _ => (remediate hw .manual).bind fun outcome =>
    (onMonitor (·.resume) fun _ => rfl).bind fun _ => .pure outcome

/-! ### Polling -/

lemma recordHealth : Agree Scene.Parallel w.recordHealth w.recordHealth := by
  have hcall (c : Call) : Agree Scene.Parallel (w.call c) (w.call c) :=
    .makeCall coupled_parallel ((resetManually hw).bind fun _ => .standing coupled_parallel _) _ _
  exact (Agree.procedure hcall _).bind fun health => (note _ _).bind fun _ => .pure health

lemma checkHelper (copy : Copy) :
    Agree Scene.Parallel (w.checkHelper copy) (w.checkHelper copy) := by
  refine (recordHealth hw).bind fun health => ?_
  split
  · exact (note _ _).bind fun _ => .pure _
  · split
    · exact (note _ _).bind fun _ => .pure _
    · exact .pure _

lemma lead (poll : Poll) : Agree Scene.Parallel (w.lead poll) (w.lead poll) := by
  unfold Watchdog.lead
  cases poll.outcome with
  | inaccessible =>
    exact (note _ _).bind fun _ => clockText.bind fun _ => (say hw _).bind fun _ => .pure _
  | noText => exact .pure _
  | unchanged => exact .pure _
  | changed copy =>
    have hshow : Agree Scene.Parallel (w.showCopy copy) (w.showCopy copy) :=
      (onStatus _ fun _ _ => rfl).bind fun _ => emit hw
    have hrest := hshow.bind fun _ => checkHelper hw copy
    refine (note _ _).bind fun _ => ?_
    dsimp only
    split
    · exact (note _ _).bind fun _ => hrest
    · exact hrest

omit hw in
lemma tick (o : Observation) : Agree Scene.Parallel (w.tick o) (w.tick o) := by
  rintro s t ⟨hmatched, hclock, htakes⟩
  rw [Watchdog.run_tick_told, Watchdog.run_tick_told, hmatched.counter, hclock]
  refine ⟨rfl, { hmatched with counter := ?_ }, hclock, htakes⟩
  simp only [Watchdog.told, hmatched.counter]

lemma leadPoll (o : Observation) : Agree Scene.Parallel (w.leadPoll o) (w.leadPoll o) :=
  (tick o).bind fun poll => lead hw poll

lemma follow (reason? : Option Reason) :
    Agree Scene.Parallel (w.follow reason?) (w.follow reason?) := by
  cases reason? with
  | none => exact .pure none
  | some reason => exact (remediate hw reason).bind fun outcome => .pure (some outcome)

end Agree

/-! ### One watchdog at work while the other one rests -/

namespace Keeps

variable {t : Scene σ Watch} (w : Watchdog σ)

/-- The mode has no part in what matters. -/
lemma modeFree_matches : w.ModeFree (Scene.Matches · t) where
  note {α f} _ := by
    intro s hst
    rw [run_note]
    exact { hst with }
  onJournal _ := fun _ hst => { hst with }
  showMode diagnostics := by
    intro s hst
    have hstatus : { s.around.status with diagnostics } =
        { t.around.status with diagnostics } := by rw [hst.status]
    change ((w.emit.run.run _).2).Matches t
    rw [Watchdog.run_emit]
    split
    · exact { hst with status := hstatus }
    · exact { hst with status := hstatus }

/-- A look at the helper has no part in what matters. -/
lemma matches_recordHealth (hlooks : w.host.Looks) : Keeps (Scene.Matches · t) w.recordHealth := by
  have hlook (c : Call) (hc : c.acts = false)
      (hanswer : ∀ state, ∃ answer, w.host c state = .answers answer state) :
      Keeps (Scene.Matches · t) (w.call c) := by
    intro s hst
    obtain ⟨answer, hanswer⟩ := hanswer s.engine.host
    have hrun : (w.call c).run.run s = (.ok answer, s.visited (.made c)) := by
      change ((w.host c s.engine.host).settle _).run.run (s.visited (.made c)) = _
      rw [hanswer]
      rfl
    rw [hrun]
    refine { hst with actions := ?_ }
    rw [← hst.actions, Scene.actions_visited]
    simp [Visit.call?, hc]
  have hhealth : Keeps (Scene.Matches · t) w.health := by
    refine (hlook (.find _) rfl (hlooks.find _)).bind fun found => ?_
    cases found with
    | nil => exact .pure _
    | cons pid pids =>
      refine (hlook (.sample pid) rfl (hlooks.sample pid)).bind fun sampled => ?_
      cases sampled <;> exact .pure _
  exact hhealth.bind fun _ => ((modeFree_matches w).keeps_record _ _).bind fun _ => .pure _

end Keeps

/-! ### What comes of an operation -/

/-- The operation has to do with diagnostic mode alone. -/
def Operation.observes : Operation → Bool
  | notify .. | enable | disable => true
  | poll _ | reset | shutdown => false

namespace Watchdog

variable (w : Watchdog σ)

/-- The outcome of the tick, if the operation is one. A fault may break it off. -/
def polled? (s : Scene σ Watch) : Operation → Option (Except Fault PollOutcome)
  | .poll o => some (((w.tick o).run.run s).1.map Poll.outcome)
  | _ => none

/-- The part of an operation that comes before its reset, and the reason for the reset. -/
def leadTo : Operation → Work σ (Option Reason)
  | .poll o => w.leadPoll o
  | .reset => do
    leadReset
    return some .manual
  | _ => return none

/-- The outcome of the reset that an operation has led to, whatever became of the operation after
that. -/
def remediated? (s : Scene σ Watch) (op : Operation) : Option Outcome :=
  match (w.leadTo op).run.run s with
  | (.ok (some reason), s') =>
    some ((reset w.host Watch.dropManual w.config.helper reason).run s').1
  | _ => none

/-- A tick whose clock cannot be read leads to no reset. -/
lemma remediated?_poll_of_unreadable {s : Scene σ Watch} {cause : ClockFault}
    (hread : s.around.journal.clock.read = .error cause) (o : Observation) :
    w.remediated? s (.poll o) = none := by
  obtain ⟨hresult, -⟩ := w.run_leadPoll_of_unreadable hread o
  unfold remediated? leadTo
  revert hresult
  rcases (w.leadPoll o).run.run s with ⟨result, s'⟩
  rintro rfl
  cases (s.around.monitor.counter.take (w.reading o)).1 <;> rfl

end Watchdog

namespace Scene

variable {s t s' t' : Scene σ Watch}

lemma Matches.withClock (h : s.Matches t) (c : Clock) : (s.withClock c).Matches (t.withClock c) :=
  { h with }

lemma Matches.parallel (h : s.Matches t) {c : Clock}
    (htakes : (s.withClock c).around.journal.TakesRecords) :
    (s.withClock c).Parallel (t.withClock c) :=
  ⟨h.withClock c, rfl, htakes⟩

/-- Scenes that match go on to match while nothing is done. -/
lemma Matches.of_idle (h : s.Matches t) (hs : s.Idle s') (ht : t.Idle t') : s'.Matches t' where
  host := by rw [hs.engine, ht.engine, h.host]
  busy := by rw [hs.engine, ht.engine, h.busy]
  runs := by rw [hs.engine, ht.engine, h.runs]
  actions := by rw [hs.engine, ht.engine, h.actions]
  counter := by rw [hs.counter, ht.counter, h.counter]
  status := by rw [hs.status, ht.status, ← h.status]
  off := ht.recording.trans h.off

end Scene

namespace Watchdog

variable {w : Watchdog σ} {s t : Scene σ Watch} (hst : s.Matches t)

include hst

/-- The operations of diagnostic mode have no part in what matters. -/
lemma matches_next_of_observes (hlooks : w.host.Looks) {step : Clock × Operation}
    (h : step.2.observes = true) : (w.next s step).Matches t := by
  obtain ⟨clock, op⟩ := step
  have hclock : (s.withClock clock).Matches t := { hst with }
  have hmode : w.ModeFree (Scene.Matches · t) := Keeps.modeFree_matches w
  cases op with
  | poll o => cases h
  | notify n latency => exact hmode.keeps_onNotification n latency _ hclock
  | reset => cases h
  | enable =>
    rw [next_enable]
    exact hmode.keeps_enableDiagnostics (Keeps.matches_recordHealth w hlooks) _ hclock
  | disable => exact hmode.keeps_disableDiagnostics _ hclock
  | shutdown => cases h

lemma matches_next_shutdown (clock : Clock) :
    (w.next s (clock, .shutdown)).Matches (w.next t (clock, .shutdown)) := by
  let stop (s : Scene σ Watch) : Scene σ Watch :=
    { s with around := { s.around with monitor := s.around.monitor.stop } }
  have hnext (s : Scene σ Watch) : w.next s (clock, .shutdown) =
      (w.disableDiagnostics.run.run (stop (s.withClock clock))).2 := rfl
  have hstop : (stop (s.withClock clock)).Matches (stop (t.withClock clock)) :=
    { hst with counter := hst.counter }
  rw [hnext, hnext, run_disableDiagnostics_of_not_recording w hstop.off]
  exact (Keeps.modeFree_matches w).keeps_disableDiagnostics _ hstop

/-- A tick comes to the same in both. -/
lemma polled?_eq (clock : Clock) (op : Operation) :
    w.polled? (s.withClock clock) op = w.polled? (t.withClock clock) op := by
  cases op with
  | poll o =>
    simp only [polled?, run_tick_told]
    change some ((Except.mapError _ (Poll.ofOutcome clock
      (s.around.monitor.counter.take (w.reading o)).1)).map Poll.outcome) = _
    rw [hst.counter]
    rfl
  | _ => rfl

/-- Where records are taken, what leads to a reset is the same in both, and so is the reset. -/
lemma remediated?_eq (hw : w.IgnoresMode) {clock : Clock} (op : Operation)
    (htakes : (s.withClock clock).around.journal.TakesRecords) :
    w.remediated? (s.withClock clock) op = w.remediated? (t.withClock clock) op := by
  have hlead : Agree Scene.Parallel (w.leadTo op) (w.leadTo op) := by
    cases op with
    | poll o => exact Agree.leadPoll hw o
    | reset => exact Agree.leadReset.bind fun _ => .pure _
    | _ => exact .pure none
  obtain ⟨hresult, hscene⟩ := hlead _ _ (hst.parallel htakes)
  unfold remediated?
  revert hresult hscene
  rcases (w.leadTo op).run.run (s.withClock clock) with ⟨result, s'⟩
  rcases (w.leadTo op).run.run (t.withClock clock) with ⟨result', t'⟩
  rintro rfl hscene
  rcases result with fault | _ | reason
  · rfl
  · rfl
  · have hreset := Agree.reset coupled_parallel Agree.dropManual w.host w.config.helper reason
    exact congrArg some (Except.ok.inj (hreset s' t' hscene).1)

lemma matches_next_poll (hw : w.IgnoresMode) (clock : Clock) (o : Observation) :
    (w.next s (clock, .poll o)).Matches (w.next t (clock, .poll o)) ∧
      w.remediated? (s.withClock clock) (.poll o) =
        w.remediated? (t.withClock clock) (.poll o) := by
  rw [next_poll, next_poll]
  cases hread : clock.read with
  | ok now =>
    have htakes : (s.withClock clock).around.journal.TakesRecords :=
      Journal.takesRecords_of_read hread
    have hpoll : Agree Scene.Parallel (w.pollOnce o) (w.pollOnce o) := by
      rw [pollOnce_eq]
      exact (Agree.leadPoll hw o).bind fun reason? => Agree.follow hw reason?
    exact ⟨(hpoll _ _ (hst.parallel htakes)).2.matched, remediated?_eq hst hw _ htakes⟩
  | error cause =>
    obtain ⟨-, hs⟩ := w.run_pollOnce_of_unreadable (s := s.withClock clock) hread o
    obtain ⟨-, ht⟩ := w.run_pollOnce_of_unreadable (s := t.withClock clock) hread o
    have htold : (w.told (s.withClock clock) o).Matches (w.told (t.withClock clock) o) := by
      refine { hst with counter := ?_ }
      simp only [told, Scene.withClock, hst.counter]
    refine ⟨htold.of_idle hs ht, ?_⟩
    rw [remediated?_poll_of_unreadable w (s := s.withClock clock) hread,
      remediated?_poll_of_unreadable w (s := t.withClock clock) hread]

lemma matches_next_reset (hw : w.IgnoresMode) (clock : Clock)
    (htakes : (s.withClock clock).around.journal.TakesRecords) :
    (w.next s (clock, .reset)).Matches (w.next t (clock, .reset)) := by
  rw [next_reset, next_reset]
  exact (Agree.resetManually hw _ _ (hst.parallel htakes)).2.matched

/-- The other operations come to the same in both, if a manual reset finds that records are
taken. -/
lemma matches_next (hw : w.IgnoresMode) {step : Clock × Operation} (h : step.2.observes = false)
    (hreset : step.2 = .reset → (s.withClock step.1).around.journal.TakesRecords) :
    (w.next s step).Matches (w.next t step) ∧
      w.remediated? (s.withClock step.1) step.2 = w.remediated? (t.withClock step.1) step.2 := by
  obtain ⟨clock, op⟩ := step
  cases op with
  | poll o => exact matches_next_poll hst hw clock o
  | reset =>
    exact ⟨matches_next_reset hst hw clock (hreset rfl), remediated?_eq hst hw _ (hreset rfl)⟩
  | shutdown => exact ⟨matches_next_shutdown hst clock, rfl⟩
  | notify n latency => cases h
  | enable => cases h
  | disable => cases h

omit hst in
/-- Nothing is seen of the operations of diagnostic mode. -/
lemma seen_of_observes {op : Operation} (h : op.observes = true) :
    w.polled? s op = none ∧ w.remediated? s op = none := by
  cases op with
  | notify n latency => exact ⟨rfl, rfl⟩
  | enable => exact ⟨rfl, rfl⟩
  | disable => exact ⟨rfl, rfl⟩
  | poll o => cases h
  | reset => cases h
  | shutdown => cases h

end Watchdog

/-! ### Rows of operations -/

namespace Watchdog

variable (w : Watchdog σ)

/-- What is seen of each operation of a row, where something is. -/
def along {β : Type} (seen : Scene σ Watch → Operation → Option β) :
    Scene σ Watch → List (Clock × Operation) → List β
  | _, [] => []
  | s, step :: steps =>
    (seen (s.withClock step.1) step.2).toList ++ along seen (w.next s step) steps

/-- The operations of a row that have not to do with diagnostic mode alone. -/
def plain (steps : List (Clock × Operation)) : List (Clock × Operation) :=
  steps.filter fun step => !step.2.observes

/-- At every manual reset that is asked for while a session is attached, the clock can be read. -/
def ResetsTakeRecords (start : Scene σ Watch) (steps : List (Clock × Operation)) : Prop :=
  ∀ earlier clock later, steps = earlier ++ (clock, .reset) :: later →
    ((w.after start earlier).withClock clock).around.journal.TakesRecords

variable {w} (hlooks : w.host.Looks) (hw : w.IgnoresMode)

include hlooks hw

/-- Scenes that match go on to match, one with all operations and one without those that observe,
and all that is seen is seen in both. -/
lemma matches_after {s t : Scene σ Watch} (hst : s.Matches t) {steps : List (Clock × Operation)}
    (hresets : w.ResetsTakeRecords s steps) :
    (w.after s steps).Matches (w.after t (plain steps)) ∧
      w.along w.polled? s steps = w.along w.polled? t (plain steps) ∧
      w.along w.remediated? s steps = w.along w.remediated? t (plain steps) := by
  induction steps generalizing s t with
  | nil => exact ⟨hst, rfl, rfl⟩
  | cons step steps ih =>
    have hlater : w.ResetsTakeRecords (w.next s step) steps := by
      rintro earlier clock later rfl
      exact hresets (step :: earlier) clock later rfl
    cases h : step.2.observes with
    | true =>
      obtain ⟨hnext, hpolled, hremediated⟩ := ih (matches_next_of_observes hst hlooks h) hlater
      obtain ⟨hunpolled, hunremediated⟩ := seen_of_observes (w := w) (s := s.withClock step.1) h
      have hplain : plain (step :: steps) = plain steps := by simp [plain, h]
      rw [hplain, along, along, hunpolled, hunremediated]
      exact ⟨hnext, hpolled, hremediated⟩
    | false =>
      have hreset (hop : step.2 = .reset) :
          (s.withClock step.1).around.journal.TakesRecords := by
        obtain ⟨clock, op⟩ := step
        obtain rfl : op = .reset := hop
        exact hresets [] clock steps rfl
      obtain ⟨hmatch, hsame⟩ := matches_next hst hw h hreset
      obtain ⟨hnext, hpolled, hremediated⟩ := ih hmatch hlater
      have hplain : plain (step :: steps) = step :: plain steps := by simp [plain, h]
      rw [hplain, along, along, along, along, polled?_eq hst, hsame, hpolled, hremediated]
      exact ⟨hnext, rfl, rfl⟩

end Watchdog

/-! ### With and without the mode -/

namespace ProcessTable

lemma looks_answering : answering.host.Looks where
  find _ _ := ⟨_, rfl⟩
  sample _ _ := ⟨_, rfl⟩

/-- A host that asks for a reset whenever it is to look for processes. -/
def demanding : Host ProcessTable
  | .find _, t => .asks t fun _ t => .answers t.found t
  | c, t => .answers (t.answer c).1 (t.answer c).2

end ProcessTable

namespace Watchdog

open ProcessTable

/-- A receiver that breaks down when it is shown that the clipboard cannot be read, but only in
diagnostic mode. -/
def faint (d : Delivery) : Option Fault :=
  if d.text = "Copies: 0 | Resets: 0 | Diagnostics: on | Clipboard inaccessible at 09:05:07" then
    some .unreadable
  else none

end Watchdog

end ClipboardWatchdog
