import ClipboardWatchdog.Proofs.Clipboard.Counting
import ClipboardWatchdog.Proofs.Helper.PlainHost
import ClipboardWatchdog.Proofs.Watchdog.Operations

/-!
# Ticks that come to their end

`Completes P a Q` says that from every state with `P` the work `a` ends with a value, and that `Q`
then holds. A watchdog whose host only answers, whose receiver takes what it is handed and whose
clock can be read brings every tick of polling to its end (`completes_pollOnce`). What the tick asks
of the engine, and what comes of it, depends on the outcome and the engine alone: `Engine.respond`.
-/

namespace ClipboardWatchdog

variable {τ σ α β : Type}

/-- From every state with the first property the work ends with a value, and the second property
holds of the value and the state that it leaves. -/
def Completes (P : τ → Prop) (a : ExceptT Fault (StateM τ) α) (Q : α → τ → Prop) : Prop :=
  ∀ s, P s → ∃ x s', a.run.run s = (.ok x, s') ∧ Q x s'

namespace Completes

variable {P : τ → Prop} {Q : α → τ → Prop} {R : β → τ → Prop}

protected lemma pure {x : α} (h : ∀ s, P s → Q x s) :
    Completes P (pure x : ExceptT Fault (StateM τ) α) Q :=
  fun s hs => ⟨x, s, rfl, h s hs⟩

protected lemma bind {a : ExceptT Fault (StateM τ) α} {f : α → ExceptT Fault (StateM τ) β}
    (ha : Completes P a Q) (hf : ∀ x, Completes (Q x) (f x) R) : Completes P (a >>= f) R := by
  intro s hs
  obtain ⟨x, t, hrun, ht⟩ := ha s hs
  obtain ⟨y, s', hrun', hs'⟩ := hf x t ht
  exact ⟨y, s', run_bind_eq_ok.mpr ⟨x, t, hrun, hrun'⟩, hs'⟩

/-- What is known of a value may be used before the work goes on. -/
protected lemma of_imp {φ : Prop} {a : ExceptT Fault (StateM τ) α} (h : φ → Completes P a Q) :
    Completes (fun s => φ ∧ P s) a Q :=
  fun s hs => h hs.1 s hs.2

protected lemma modify {f : τ → τ} {Q : PUnit → τ → Prop} (h : ∀ s, P s → Q ⟨⟩ (f s)) :
    Completes P (modify f : ExceptT Fault (StateM τ) PUnit) Q :=
  fun s hs => ⟨(), f s, rfl, h s hs⟩

protected lemma ite {p : Prop} [Decidable p] {a b : ExceptT Fault (StateM τ) α}
    (ha : Completes P a Q) (hb : Completes P b Q) : Completes P (if p then a else b) Q := by
  split
  · exact ha
  · exact hb

protected lemma forM {f : α → ExceptT Fault (StateM τ) PUnit}
    (h : ∀ x, Completes P (f x) fun _ => P) (xs : List α) : Completes P (xs.forM f) fun _ => P := by
  induction xs with
  | nil => exact .pure fun _ hs => hs
  | cons x xs ih => exact (h x).bind fun _ => ih

end Completes

/-- From every state with the first property a fault breaks the work off, and the second property
holds of the state that it leaves. -/
def Fails (P : τ → Prop) (a : ExceptT Fault (StateM τ) α) (Q : τ → Prop) : Prop :=
  ∀ s, P s → ∃ fault s', a.run.run s = (.error fault, s') ∧ Q s'

namespace Fails

variable {P Q : τ → Prop} {R : α → τ → Prop} {a : ExceptT Fault (StateM τ) α}
  {f : α → ExceptT Fault (StateM τ) β}

protected lemma bind (ha : Fails P a Q) : Fails P (a >>= f) Q := by
  intro s hs
  obtain ⟨fault, s', hrun, hs'⟩ := ha s hs
  refine ⟨fault, s', ?_, hs'⟩
  rw [run_run_bind, hrun]

lemma of_completes (ha : Completes P a R) (hf : ∀ x, Fails (R x) (f x) Q) :
    Fails P (a >>= f) Q := by
  intro s hs
  obtain ⟨x, t, hrun, ht⟩ := ha s hs
  obtain ⟨fault, s', hrun', hs'⟩ := hf x t ht
  refine ⟨fault, s', ?_, hs'⟩
  rw [run_run_bind, hrun]
  exact hrun'

end Fails

/-! ### Telling of things -/

/-- The scene has this engine and this monitor, its clock shows this, and no session is attached. -/
structure Scene.At (e : Engine σ) (m : Monitor) (c : Clock) (s : Scene σ Watch) : Prop where
  engine : s.engine = e
  monitor : s.around.monitor = m
  clock : s.around.journal.clock = c
  session : s.around.journal.session = none

/-- The receiver of the status, if there is one, takes whatever it is handed. -/
def Watchdog.IsHeard (w : Watchdog σ) : Prop := ∀ receive ∈ w.receiver, ∀ d, receive d = none

/-- Where no session is attached, a record goes to the log alone. -/
lemma Journal.record_of_session_eq_none {j : Journal} (h : j.session = none)
    (category : Option Category) (message : String) :
    j.record category message =
      (.ok (), { j with log := j.log ++ [(.ofCategory category, message)] }) := by
  simp only [record, h]

namespace Completes

variable {w : Watchdog σ} {e : Engine σ} {m : Monitor} {c : Clock}

lemma note (category : Option Category) (message : String) :
    Completes (Scene.At e m c) (Work.note (·.record category message) : Work σ Unit)
      fun _ => Scene.At e m c := by
  intro s hs
  have hrecord := Journal.record_of_session_eq_none hs.session category message
  refine ⟨(), { s with around := { s.around with
    journal := (s.around.journal.record category message).2 } }, ?_, ?_⟩
  · rw [run_note, hrecord]
    rfl
  · rw [hrecord]
    exact ⟨hs.engine, hs.monitor, hs.clock, hs.session⟩

lemma onWatch {f : Watch → Watch}
    (hf : ∀ x, (f x).monitor = x.monitor ∧ (f x).journal = x.journal) :
    Completes (Scene.At e m c) (Work.onWatch f : Work σ Unit) fun _ => Scene.At e m c := by
  refine .modify fun s hs => ?_
  obtain ⟨hmonitor, hjournal⟩ := hf s.around
  exact ⟨hs.engine, hmonitor.trans hs.monitor, (congrArg Journal.clock hjournal).trans hs.clock,
    (congrArg Journal.session hjournal).trans hs.session⟩

lemma onStatus (f : Status → Status) :
    Completes (Scene.At e m c) (Work.onStatus f : Work σ Unit) fun _ => Scene.At e m c :=
  onWatch fun _ => ⟨rfl, rfl⟩

lemma watch :
    Completes (Scene.At e m c) (Work.watch : Work σ Watch)
      fun x s => (x.journal.clock = c ∧ x.monitor = m) ∧ Scene.At e m c s :=
  fun s hs => ⟨s.around, s, rfl, ⟨hs.clock, hs.monitor⟩, hs⟩

lemma runs : Completes (Scene.At e m c) (Work.runs : Work σ ℕ) fun _ => Scene.At e m c :=
  fun s hs => ⟨_, s, rfl, hs⟩

lemma emit (hw : w.IsHeard) :
    Completes (Scene.At e m c) w.emit fun _ => Scene.At e m c := by
  unfold Watchdog.emit
  cases hreceiver : w.receiver with
  | none => exact .pure fun _ hs => hs
  | some receive =>
    refine watch.bind fun shown => .of_imp fun _ => runs.bind fun n => ?_
    refine Completes.bind (onWatch ?_) fun _ => ?_
    · exact fun _ => ⟨rfl, rfl⟩
    · rw [hw receive hreceiver]
      exact .pure fun _ hs => hs

lemma say (hw : w.IsHeard) (message : String) :
    Completes (Scene.At e m c) (w.say message) fun _ => Scene.At e m c :=
  (onStatus _).bind fun _ => emit hw

lemma clockText {now : Moment} (hc : c.read = .ok now) :
    Completes (Scene.At e m c) (Work.clockText : Work σ String) fun _ => Scene.At e m c := by
  refine Completes.bind (watch.bind fun x => .of_imp fun hx => ?_) fun _ => .pure fun _ hs => hs
  rw [hx.1, hc]
  exact fun s hs => ⟨now, s, rfl, hs⟩

/-! ### Asking the host -/

variable {answer : (c : Call) → σ → c.Answer × σ}

/-- A reset that was asked for is completed. -/
lemma reset (hhost : w.host = .plain answer) (he : e.busy = false) (reason : Reason) :
    Completes (Scene.At e m c)
      (liftM (reset w.host Watch.dropManual w.config.helper reason) : Work σ Outcome)
      fun outcome s => outcome = .completed (e.restarted answer w.config.helper reason).1 ∧
        Scene.At (e.restarted answer w.config.helper reason).2 m c s := by
  rintro s ⟨rfl, hmonitor, hclock, hsession⟩
  refine ⟨_, { s with engine := (s.engine.restarted answer w.config.helper reason).2 }, ?_, rfl,
    rfl, hmonitor, hclock, hsession⟩
  have hrun := run_reset_plain answer Watch.dropManual w.config.helper reason he
  rw [← hhost] at hrun
  change ((Except.ok <$> ClipboardWatchdog.reset w.host Watch.dropManual w.config.helper reason :
    StateM (Scene σ Watch) (Except Fault Outcome)).run s) = _
  rw [StateT.run_map, hrun]
  rfl

/-- The outcome of a reset is its report, whatever is told of it afterwards. -/
lemma remediate (hhost : w.host = .plain answer) (hw : w.IsHeard) {now : Moment}
    (hc : c.read = .ok now) (he : e.busy = false) (reason : Reason) :
    Completes (Scene.At e m c) (w.remediate reason) fun outcome s =>
      outcome = .completed (e.restarted answer w.config.helper reason).1 ∧
        Scene.At (e.restarted answer w.config.helper reason).2 m c s := by
  refine (reset hhost he reason).bind fun outcome => .of_imp ?_
  rintro rfl
  have hcount (report : Report) (e : Engine σ) : Completes (Scene.At e m c) (do
      let n ← Work.runs
      Work.onStatus fun s => { s with resets := n }
      w.emit
      return .completed report : Work σ Outcome) fun outcome s =>
        outcome = .completed report ∧ Scene.At e m c s :=
    runs.bind fun _ => (onStatus _).bind fun _ => (emit hw).bind fun _ =>
      .pure fun _ hs => ⟨rfl, hs⟩
  refine (Completes.forM (fun _ => note _ _) _).bind fun _ => ?_
  split
  · exact (note _ _).bind fun _ => (note _ _).bind fun _ => (clockText hc).bind fun _ =>
      (say hw _).bind fun _ => hcount _ _
  · exact (note _ _).bind fun _ => (say hw _).bind fun _ => hcount _ _

lemma health (hhost : w.host = .plain answer) :
    Completes (Scene.At e m c) w.health fun health s =>
      health = (e.carryOut answer (probe w.config.helper)).1 ∧
        Scene.At (e.carryOut answer (probe w.config.helper)).2 m c s := by
  rintro s ⟨rfl, hmonitor, hclock, hsession⟩
  refine ⟨_, { s with engine := (s.engine.carryOut answer (probe w.config.helper)).2 }, ?_, rfl,
    rfl, hmonitor, hclock, hsession⟩
  unfold Watchdog.health Watchdog.call
  rw [hhost]
  exact run_procedure_plain answer _ _ s

lemma recordHealth (hhost : w.host = .plain answer) :
    Completes (Scene.At e m c) w.recordHealth fun health s =>
      health = (e.carryOut answer (probe w.config.helper)).1 ∧
        Scene.At (e.carryOut answer (probe w.config.helper)).2 m c s :=
  (health hhost).bind fun _ => .of_imp fun hhealth => (note _ _).bind fun _ =>
    .pure fun _ hs => ⟨hhealth, hs⟩

end Completes

/-! ### Ticks -/

/-- The engine restarts the helper, and there is a report of it. -/
def Engine.report (answer : (c : Call) → σ → c.Answer × σ) (helper : String) (reason : Reason)
    (e : Engine σ) : Option Report × Engine σ :=
  let done := e.restarted answer helper reason
  (some done.1, done.2)

/-- What a tick of polling asks of the engine, and what comes of it. A clipboard that cannot be read
calls for a reset. So does a copy, if the helper is found to need a restart, or else if one is
due. -/
def Engine.respond (answer : (c : Call) → σ → c.Answer × σ) (helper : String) (e : Engine σ) :
    PollOutcome → Option Report × Engine σ
  | .inaccessible => e.report answer helper .clipboardInaccessible
  | .noText | .unchanged => (none, e)
  | .changed copy =>
    let health := e.carryOut answer (probe helper)
    if health.1.needsRestart then health.2.report answer helper .unhealthy
    else if copy.resetDue then health.2.report answer helper .scheduled
    else (none, health.2)

/-- With a clock that can be read, there is a report of every outcome. -/
lemma Poll.exists_ofOutcome_eq_ok {clock : Clock} {now : Moment} (hc : clock.read = .ok now)
    (outcome : PollOutcome) :
    ∃ poll, Poll.ofOutcome clock outcome = .ok poll ∧ poll.outcome = outcome := by
  cases outcome with
  | changed copy =>
    refine ⟨⟨.changed copy, some ⟨copy.sequence, some copy.text, [], now⟩⟩, ?_, rfl⟩
    simp only [Poll.ofOutcome, hc]
    rfl
  | _ => exact ⟨_, rfl, rfl⟩

namespace Watchdog

/-- What the monitor is told when it looks at the clipboard once. -/
def reading (w : Watchdog σ) (o : Observation) : Reading :=
  ⟨o.read.text? w.config.readLimit, o.before, o.after⟩

variable {w : Watchdog σ} {e : Engine σ} {m : Monitor} {c : Clock}

lemma run_tick (o : Observation) (s : Scene σ Watch) :
    (w.tick o).run.run s =
      ((Poll.ofOutcome s.around.journal.clock
          (s.around.monitor.counter.take (w.reading o)).1).mapError .clock,
        { s with around := { s.around with monitor := { s.around.monitor with
          counter := (s.around.monitor.counter.take (w.reading o)).2 } } }) := by
  let outcome := (s.around.monitor.counter.take (w.reading o)).1
  change (aside (Aside.demand (Poll.ofOutcome s.around.journal.clock outcome)) :
    Work σ Poll).run.run _ = _
  rw [run_aside]
  cases Poll.ofOutcome s.around.journal.clock outcome <;> rfl

variable {answer : (c : Call) → σ → c.Answer × σ}

/-- A reset that a tick asks for is reported. -/
lemma completes_some_remediate (hhost : w.host = .plain answer) (hw : w.IsHeard) {now : Moment}
    (hc : c.read = .ok now) (he : e.busy = false) (reason : Reason) :
    Completes (Scene.At e m c) (do return some (← w.remediate reason) : Work σ (Option Outcome))
      fun asked s =>
        asked = (e.report answer w.config.helper reason).1.map .completed ∧
          Scene.At (e.report answer w.config.helper reason).2 m c s := by
  refine (Completes.remediate hhost hw hc he reason).bind fun _ => .of_imp ?_
  rintro rfl
  exact .pure fun _ hs => ⟨rfl, hs⟩

lemma completes_onInaccessible (hhost : w.host = .plain answer) (hw : w.IsHeard) {now : Moment}
    (hc : c.read = .ok now) (he : e.busy = false) :
    Completes (Scene.At e m c) w.onInaccessible fun asked s =>
      asked = (e.respond answer w.config.helper .inaccessible).1.map .completed ∧
        Scene.At (e.respond answer w.config.helper .inaccessible).2 m c s :=
  (Completes.note _ _).bind fun _ => (Completes.clockText hc).bind fun _ =>
    (Completes.say hw _).bind fun _ => completes_some_remediate hhost hw hc he _

lemma completes_onCopy (hhost : w.host = .plain answer) (hw : w.IsHeard) {now : Moment}
    (hc : c.read = .ok now) (he : e.busy = false) (copy : Copy) (snapshot : Option Snapshot) :
    Completes (Scene.At e m c) (w.onCopy copy snapshot) fun asked s =>
      asked = (e.respond answer w.config.helper (.changed copy)).1.map .completed ∧
        Scene.At (e.respond answer w.config.helper (.changed copy)).2 m c s := by
  have hfree : (e.carryOut answer (probe w.config.helper)).2.busy = false := by simp [he]
  have hrest : Completes (Scene.At e m c) (do
      Work.onStatus fun s => { s with copies := copy.number }
      w.emit
      let health ← w.recordHealth
      if health.needsRestart then
        Work.note (·.warn ("Helper needs restart: " ++ ", ".intercalate health.restartReasons))
        return some (← w.remediate .unhealthy)
      else if copy.resetDue then
        Work.note (·.info ("Scheduled reset after " ++ Text.decimal copy.number ++ " copies"))
        return some (← w.remediate .scheduled)
      else return none : Work σ (Option Outcome)) fun asked s =>
        asked = (e.respond answer w.config.helper (.changed copy)).1.map .completed ∧
          Scene.At (e.respond answer w.config.helper (.changed copy)).2 m c s := by
    refine (Completes.onStatus _).bind fun _ => (Completes.emit hw).bind fun _ => ?_
    refine (Completes.recordHealth hhost).bind fun health => .of_imp ?_
    rintro rfl
    unfold Engine.respond
    dsimp only
    split
    · exact (Completes.note _ _).bind fun _ => completes_some_remediate hhost hw hc hfree _
    · split
      · exact (Completes.note _ _).bind fun _ => completes_some_remediate hhost hw hc hfree _
      · exact .pure fun _ hs => ⟨rfl, hs⟩
  exact (Completes.note _ _).bind fun _ => .ite ((Completes.note _ _).bind fun _ => hrest) hrest

/-- A tick whose clock can be read comes to its end, and asks of the engine what its outcome calls
for. -/
theorem completes_pollOnce (hhost : w.host = .plain answer) (hw : w.IsHeard) {now : Moment}
    (hc : c.read = .ok now) (he : e.busy = false) (o : Observation) :
    let told := m.counter.take (w.reading o)
    let response := e.respond answer w.config.helper told.1
    Completes (Scene.At e m c) (w.pollOnce o) fun asked s =>
      asked = response.1.map .completed ∧ Scene.At response.2 { m with counter := told.2 } c s := by
  intro told response
  have htick : Completes (Scene.At e m c) (w.tick o) fun poll s =>
      poll.outcome = told.1 ∧ Scene.At e { m with counter := told.2 } c s := by
    rintro s ⟨rfl, rfl, rfl, hsession⟩
    obtain ⟨poll, hpoll, houtcome⟩ := Poll.exists_ofOutcome_eq_ok hc told.1
    have hrun := run_tick (w := w) o s
    rw [hpoll] at hrun
    exact ⟨poll, _, hrun, houtcome, rfl, rfl, rfl, hsession⟩
  refine htick.bind fun poll => .of_imp fun hpoll => ?_
  simp only [response, ← hpoll]
  unfold onPoll
  cases poll.outcome with
  | inaccessible => exact completes_onInaccessible hhost hw hc he
  | noText => exact .pure fun _ hs => ⟨rfl, hs⟩
  | unchanged => exact .pure fun _ hs => ⟨rfl, hs⟩
  | changed copy => exact completes_onCopy hhost hw hc he copy poll.snapshot

/-- Without the time of day there is no message to tell, and no reset. -/
lemma fails_onInaccessible {cause : ClockFault} (hc : c.read = .error cause) :
    Fails (Scene.At e m c) w.onInaccessible (Scene.At e m c) := by
  refine .of_completes (Completes.note _ _) fun _ => .bind (.bind ?_)
  refine .of_completes Completes.watch fun x s hs => ?_
  refine ⟨.clock cause, s, ?_, hs.2⟩
  rw [hs.1.1, hc]
  rfl

/-- A tick whose clock cannot be read asks nothing of the engine. A fault breaks it off if its
outcome would have called for something. -/
theorem run_pollOnce_of_error {cause : ClockFault} (hc : c.read = .error cause)
    {s : Scene σ Watch} (hs : Scene.At e m c s) (o : Observation) :
    let told := m.counter.take (w.reading o)
    let r := (w.pollOnce o).run.run s
    Scene.At e { m with counter := told.2 } c r.2 ∧ ∀ asked, r.1 = .ok asked → asked = none := by
  intro told r
  have hrun : r = _ := run_run_bind (w.tick o) w.onPoll s
  rw [run_tick] at hrun
  obtain ⟨rfl, rfl, rfl, hsession⟩ := hs
  let monitor := { s.around.monitor with counter := told.2 }
  have htold : Scene.At s.engine monitor s.around.journal.clock
      { s with around := { s.around with monitor } } :=
    ⟨rfl, rfl, rfl, hsession⟩
  cases houtcome : told.1 with
  | inaccessible =>
    rw [houtcome] at hrun
    obtain ⟨fault, s', hfault, hs'⟩ := fails_onInaccessible (w := w) hc _ htold
    change r = w.onInaccessible.run.run _ at hrun
    rw [hrun, hfault]
    exact ⟨hs', fun _ h => by cases h⟩
  | noText =>
    rw [houtcome] at hrun
    change r = (.ok none, _) at hrun
    rw [hrun]
    exact ⟨htold, fun _ h => by cases h; rfl⟩
  | unchanged =>
    rw [houtcome] at hrun
    change r = (.ok none, _) at hrun
    rw [hrun]
    exact ⟨htold, fun _ h => by cases h; rfl⟩
  | changed copy =>
    -- the copy has been counted, and there is no time for its snapshot
    rw [houtcome, Poll.ofOutcome, hc] at hrun
    change r = (.error (.clock cause), _) at hrun
    rw [hrun]
    exact ⟨htold, fun _ h => by cases h⟩

end Watchdog

end ClipboardWatchdog
