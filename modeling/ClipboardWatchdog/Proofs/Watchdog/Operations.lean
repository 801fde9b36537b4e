import ClipboardWatchdog.Helper.ProcessTable
import ClipboardWatchdog.Proofs.Watchdog.Sending

/-!
# Runs of a watchdog

An `Operation` is one of the things that the user or the system asks of a watchdog. `Watchdog.after`
is the scene after a row of operations, each at the time that its clock shows. An operation that a
fault abandons leaves what it did until then, and the next one starts from there.

A property of watches is kept by the `Routine` of a watchdog if the records that it sends, and what
it does beside the journal, do not change it. Polls and resets keep such a property, whatever the
host, its requests and the receiver do meanwhile. A property is `Steady` if only opening and closing
a session can change it.
-/

namespace ClipboardWatchdog

variable {σ : Type}

/-- What is asked of a watchdog. -/
inductive Operation
  | poll (o : Observation)
  | notify (n : Notification) (latency : Span)
  | reset
  | enable
  | disable
  | shutdown

namespace Watchdog

variable (w : Watchdog σ)

/-- Carries out an operation. -/
def perform : Operation → Work σ Unit
  | .poll o => do let _ ← w.pollOnce o
  | .notify n latency => onNotification n latency
  | .reset => do let _ ← w.resetManually
  | .enable => do let _ ← w.enableDiagnostics
  | .disable => w.disableDiagnostics
  | .shutdown => w.shutdown

/-- The scene after an operation at the time that a clock shows. -/
def next (s : Scene σ Watch) (step : Clock × Operation) : Scene σ Watch :=
  ((w.perform step.2).run.run (s.withClock step.1)).2

lemma next_poll (s : Scene σ Watch) (clock : Clock) (o : Observation) :
    w.next s (clock, .poll o) = ((w.pollOnce o).run.run (s.withClock clock)).2 :=
  congrArg Prod.snd (run_discard _ _)

lemma next_reset (s : Scene σ Watch) (clock : Clock) :
    w.next s (clock, .reset) = (w.resetManually.run.run (s.withClock clock)).2 :=
  congrArg Prod.snd (run_discard _ _)

lemma next_enable (s : Scene σ Watch) (clock : Clock) :
    w.next s (clock, .enable) = (w.enableDiagnostics.run.run (s.withClock clock)).2 :=
  congrArg Prod.snd (run_discard _ _)

/-- The scene after a row of operations. -/
def after (s : Scene σ Watch) (steps : List (Clock × Operation)) : Scene σ Watch :=
  steps.foldl w.next s

@[simp] lemma after_nil (s : Scene σ Watch) : w.after s [] = s := rfl

lemma after_append (s : Scene σ Watch) (steps steps' : List (Clock × Operation)) :
    w.after s (steps ++ steps') = w.after (w.after s steps) steps' :=
  List.foldl_append

lemma after_concat (s : Scene σ Watch) (steps : List (Clock × Operation))
    (step : Clock × Operation) : w.after s (steps ++ [step]) = w.next (w.after s steps) step := by
  rw [after_append]
  rfl

end Watchdog

/-- A watchdog of a process table, with the usual settings but for the number of session files that
are kept. -/
def ProcessTable.watchdog (logRetention : ℕ) : Watchdog ProcessTable where
  config := .ofSettings (.ofString "data") default { logDirectory := some "logs", logRetention }
  host := ProcessTable.host
  receiver := none

/-! ### Steady properties -/

/-- A property of watches that the records of a watchdog, and its work beside the journal, do not
change. -/
structure Watchdog.Routine (w : Watchdog σ) (Q : Watch → Prop) : Prop where
  monitor : ∀ v m, Q v → Q { v with monitor := m }
  status : ∀ v st, st.diagnostics = v.status.diagnostics → Q v → Q { v with status := st }
  deliveries : ∀ v ds, Q v → Q { v with deliveries := ds }
  record : ∀ v category message, w.Sends category message →
    Q v → Q { v with journal := (v.journal.record (some category) message).2 }

/-- A property of watches that only opening and closing a session can change. -/
structure Watchdog.Steady (w : Watchdog σ) (Q : Watch → Prop) : Prop extends w.Routine Q where
  addSection : ∀ v title, Q v → Q { v with journal := v.journal.addSection title }

/-- What comes of writing to the journal. -/
lemma run_watchNote {α : Type} (f : Journal → Journal.Written α) (w : Watch) :
    (Watch.note f).run.run w =
      ((f w.journal).1.mapError Fault.clock, { w with journal := (f w.journal).2 }) := by
  unfold Watch.note
  rw [run_run_bind]
  change ((do set { w with journal := (f w.journal).2 }; Aside.demand (f w.journal).1 :
    Aside Watch α).run.run w) = _
  rw [run_run_bind]
  cases (f w.journal).1 <;> rfl

/-- Writing to the journal as work of a watchdog. -/
lemma run_note {α : Type} (f : Journal → Journal.Written α) (s : Scene σ Watch) :
    (Work.note f : Work σ α).run.run s =
      ((f s.around.journal).1.mapError Fault.clock,
        { s with around := { s.around with journal := (f s.around.journal).2 } }) := by
  unfold Work.note
  rw [run_aside, run_watchNote]

/-- A notification is put on record in its category. -/
lemma Watchdog.onNotification_eq (n : Notification) (latency : Span) :
    (Watchdog.onNotification n latency : Work σ Unit) =
      Work.note (·.record (some n.category) (n.line latency)) := by
  unfold Watchdog.onNotification Notification.category
  cases n.kind.isAnomaly <;> rfl

namespace Keeps

variable {Q : Watch → Prop}

/-- Writing to the journal keeps what the journal keeps by it. -/
lemma watchNote {α : Type} {f : Journal → Journal.Written α}
    (h : ∀ w : Watch, Q w → Q { w with journal := (f w.journal).2 }) : Keeps Q (Watch.note f) := by
  intro w hw
  rw [run_watchNote]
  exact h w hw

/-- Writing to the journal keeps what the journal keeps by it. -/
lemma note {α : Type} {f : Journal → Journal.Written α}
    (h : ∀ w : Watch, Q w → Q { w with journal := (f w.journal).2 }) :
    Keeps (fun s : Scene σ Watch => Q s.around) (Work.note f : Work σ α) :=
  (watchNote h).aside

/-- Changing the watch keeps what the change keeps. -/
lemma onWatch {f : Watch → Watch} (h : ∀ w, Q w → Q (f w)) :
    Keeps (fun s : Scene σ Watch => Q s.around) (Work.onWatch f : Work σ Unit) :=
  .modify fun s hs => h s.around hs

lemma watch : Keeps (fun s : Scene σ Watch => Q s.around) (Work.watch : Work σ Watch) :=
  Keeps.get.bind fun _ => .pure _

lemma runs : Keeps (fun s : Scene σ Watch => Q s.around) (Work.runs : Work σ ℕ) :=
  Keeps.get.bind fun _ => .pure _

lemma now : Keeps (fun s : Scene σ Watch => Q s.around) (Work.now : Work σ Moment) :=
  watch.bind fun _ => (Keeps.demand _).aside

lemma clockText : Keeps (fun s : Scene σ Watch => Q s.around) (Work.clockText : Work σ String) :=
  now.bind fun _ => .pure _

/-- Handing the status to its receiver adds a delivery and changes nothing else. -/
lemma emit (h : ∀ w ds, Q w → Q { w with deliveries := ds }) (w : Watchdog σ) :
    Keeps (fun s : Scene σ Watch => Q s.around) w.emit := by
  unfold Watchdog.emit
  split
  · exact .pure ()
  · refine watch.bind fun _ => runs.bind fun _ => (onWatch fun w hw => h w _ hw).bind fun _ => ?_
    split
    · exact .pure ()
    · exact .throw _

/-- A notification is put on record and changes nothing else. -/
lemma onNotification {n : Notification} {latency : Span}
    (h : ∀ w : Watch, Q w →
      Q { w with journal := (w.journal.record (some n.category) (n.line latency)).2 }) :
    Keeps (fun s : Scene σ Watch => Q s.around)
      (Watchdog.onNotification n latency : Work σ Unit) := by
  rw [Watchdog.onNotification_eq]
  exact .note h

end Keeps

/-! ### Work of a watchdog -/

/-- The texts in the outcome of a reset have come from the host, but for those of a fault of the
clock. -/
lemma Watchdog.ends_reset (w : Watchdog σ) {Q : Watch → Prop} (h : Keeps Q Watch.dropManual)
    (reason : Reason) :
    Ends (fun s : Scene σ Watch => Q s.around)
      (liftM (reset w.host Watch.dropManual w.config.helper reason) : Work σ Outcome)
      (fun outcome s => outcome.ComesFrom w.host w.config.helper Fault.IsClock ∧ Q s.around)
      fun _ s => Q s.around := by
  have htrace : Ends (fun _ => True) Watch.dropManual (fun _ _ => True)
      fun fault _ => fault.IsClock := by
    have note (message : String) : Ends (fun _ => True) (Watch.note (·.info message))
        (fun _ _ => True) fun fault _ => fault.IsClock := by
      intro v _
      rw [run_watchNote]
      cases (v.journal.info message).1 with
      | ok _ => trivial
      | error cause => exact ⟨cause, rfl⟩
    have monitor (f : Monitor → Monitor) : Ends (fun _ => True) (Watch.onMonitor f)
        (fun _ _ => True) fun fault _ => fault.IsClock := .modify fun _ => id
    exact (note _).bind fun _ => (monitor _).bind fun _ => (note _).bind fun _ => monitor _
  intro s hs
  exact ⟨comesFrom_reset htrace reason s, Keeps.reset h w.host w.config.helper reason s hs⟩

namespace Watchdog.Routine

variable {w : Watchdog σ} {Q : Watch → Prop} (hQ : w.Routine Q)

include hQ

lemma keeps_record {category : Category} {message : String} (h : w.Sends category message) :
    Keeps (fun s : Scene σ Watch => Q s.around)
      (Work.note (·.record (some category) message) : Work σ Unit) :=
  .note fun v hv => hQ.record v category message h hv

lemma keeps_onMonitor (f : Monitor → Monitor) :
    Keeps (fun s : Scene σ Watch => Q s.around) (Work.onMonitor f : Work σ Unit) :=
  Keeps.aside (.modify fun v hv => hQ.monitor v (f v.monitor) hv)

lemma keeps_onStatus {f : Status → Status} (h : ∀ st, (f st).diagnostics = st.diagnostics) :
    Keeps (fun s : Scene σ Watch => Q s.around) (Work.onStatus f : Work σ Unit) :=
  .onWatch fun v hv => hQ.status v _ (h v.status) hv

lemma keeps_emit : Keeps (fun s : Scene σ Watch => Q s.around) w.emit :=
  .emit hQ.deliveries w

lemma keeps_say (message : String) :
    Keeps (fun s : Scene σ Watch => Q s.around) (w.say message) :=
  (hQ.keeps_onStatus fun _ => by rfl).bind fun _ => hQ.keeps_emit

/-- A request that is dropped leaves two records and a monitor that polls. -/
lemma keeps_dropManual : Keeps Q Watch.dropManual :=
  have record {message : String} (h : w.Sends .info message) :
      Keeps Q (Watch.note (·.info message)) :=
    .watchNote fun v hv => hQ.record v .info message h hv
  have monitor (f : Monitor → Monitor) : Keeps Q (Watch.onMonitor f) :=
    .modify fun v hv => hQ.monitor v (f v.monitor) hv
  (record .manual).bind fun _ => (monitor _).bind fun _ => (record (.skipped _)).bind fun _ =>
    monitor _

lemma keeps_remediate (reason : Reason) :
    Keeps (fun s : Scene σ Watch => Q s.around) (w.remediate reason) := by
  refine (w.ends_reset hQ.keeps_dropManual reason).bind_keeps fun outcome houtcome => ?_
  have hcount : Keeps (fun s : Scene σ Watch => Q s.around) (do
      let n ← Work.runs
      Work.onStatus fun s => { s with resets := n }
      w.emit
      return outcome : Work σ Outcome) :=
    Keeps.runs.bind fun _ => (hQ.keeps_onStatus fun _ => by rfl).bind fun _ =>
      hQ.keeps_emit.bind fun _ => .pure _
  cases outcome with
  | completed report =>
    refine (Keeps.forM fun _ h => hQ.keeps_record (.failure houtcome h)).bind fun _ => ?_
    refine .ite ?_ ?_
    · exact (hQ.keeps_record (.recovered houtcome)).bind fun _ =>
        (hQ.keeps_record (.healthAfter _)).bind fun _ => Keeps.clockText.bind fun _ =>
          (hQ.keeps_say _).bind fun _ => hcount
    · exact (hQ.keeps_record (.notRecovered houtcome)).bind fun _ =>
        (hQ.keeps_say _).bind fun _ => hcount
  | coalesced => exact (hQ.keeps_record (.skipped reason)).bind fun _ => .pure _
  | failed message =>
    exact (hQ.keeps_record (.aborted reason houtcome)).bind fun _ =>
      (hQ.keeps_say _).bind fun _ => .pure _

lemma keeps_resetManually : Keeps (fun s : Scene σ Watch => Q s.around) w.resetManually :=
  (hQ.keeps_record .manual).bind fun _ => (hQ.keeps_onMonitor _).bind fun _ =>
    (hQ.keeps_remediate .manual).bind fun _ => (hQ.keeps_onMonitor _).bind fun _ => .pure _

/-- A call outside a reset keeps what a manual reset keeps, since the host may ask for one. -/
lemma keeps_call (c : Call) : Keeps (fun s : Scene σ Watch => Q s.around) (w.call c) :=
  .makeCall (unvisited_around Q)
    (hQ.keeps_resetManually.bind fun _ => Keeps.get.bind fun _ => .pure _) w.host c

lemma keeps_health : Keeps (fun s : Scene σ Watch => Q s.around) w.health :=
  .procedure hQ.keeps_call _

lemma keeps_recordHealth : Keeps (fun s : Scene σ Watch => Q s.around) w.recordHealth :=
  hQ.keeps_health.bind fun _ => (hQ.keeps_record (.health _)).bind fun _ => .pure _

lemma keeps_onCopy (copy : Copy) (snapshot : Option Snapshot) :
    Keeps (fun s : Scene σ Watch => Q s.around) (w.onCopy copy snapshot) := by
  have hrest : Keeps (fun s : Scene σ Watch => Q s.around) (do
      Work.onStatus fun s => { s with copies := copy.number }
      w.emit
      let health ← w.recordHealth
      if health.needsRestart then
        Work.note (·.warn ("Helper needs restart: " ++ ", ".intercalate health.restartReasons))
        return some (← w.remediate .unhealthy)
      else if copy.resetDue then
        Work.note (·.info ("Scheduled reset after " ++ Text.decimal copy.number ++ " copies"))
        return some (← w.remediate .scheduled)
      else return none : Work σ (Option Outcome)) := by
    refine (hQ.keeps_onStatus fun _ => by rfl).bind fun _ => hQ.keeps_emit.bind fun _ => ?_
    refine hQ.keeps_recordHealth.bind fun health => .ite ?_ (.ite ?_ (.pure _))
    · exact (hQ.keeps_record (.needsRestart health)).bind fun _ =>
        (hQ.keeps_remediate _).bind fun _ => .pure _
    · exact (hQ.keeps_record (.scheduled copy)).bind fun _ =>
        (hQ.keeps_remediate _).bind fun _ => .pure _
  refine (hQ.keeps_record (.copy copy snapshot)).bind fun _ => .ite ?_ hrest
  exact (hQ.keeps_record (.signalMissing copy)).bind fun _ => hrest

lemma keeps_pollOnce (o : Observation) :
    Keeps (fun s : Scene σ Watch => Q s.around) (w.pollOnce o) := by
  refine Keeps.bind ?_ fun poll => ?_
  · exact Keeps.watch.bind fun _ => (hQ.keeps_onMonitor _).bind fun _ => (Keeps.demand _).aside
  · unfold Watchdog.onPoll
    split
    · exact (hQ.keeps_record .inaccessible).bind fun _ => Keeps.clockText.bind fun _ =>
        (hQ.keeps_say _).bind fun _ => (hQ.keeps_remediate _).bind fun _ => .pure _
    · exact .pure _
    · exact .pure _
    · exact hQ.keeps_onCopy _ _

end Watchdog.Routine

namespace Watchdog.Steady

variable {w : Watchdog σ} {Q : Watch → Prop} (hQ : w.Steady Q)

include hQ

lemma keeps_addSection (title : String) :
    Keeps (fun s : Scene σ Watch => Q s.around)
      (Work.onJournal (·.addSection title) : Work σ Unit) :=
  .onWatch fun v hv => hQ.addSection v title hv

lemma keeps_recordState : Keeps (fun s : Scene σ Watch => Q s.around) w.recordState :=
  (hQ.keeps_addSection _).bind fun _ => hQ.keeps_recordHealth.bind fun _ =>
    Keeps.watch.bind fun _ => Keeps.runs.bind fun _ => (hQ.keeps_record (.counts _ _)).bind fun _ =>
      (hQ.keeps_addSection _).bind fun _ => hQ.keeps_record .unavailable

end Watchdog.Steady

end ClipboardWatchdog
