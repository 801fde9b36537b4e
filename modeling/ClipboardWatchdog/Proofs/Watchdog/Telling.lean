import ClipboardWatchdog.Proofs.Watchdog.Operations

/-!
# What is told of a reset

The watchdog asks its engine for a reset, and then tells how it went (`Watchdog.tell`): the journal
gets its records, the receiver a message, and the status the count. All of that goes on beside the
engine, so that the calls, the runs and the outcome of the reset are those of the engine. A tick of
polling falls into two parts in the same way: what leads to a reset (`Watchdog.lead`), which may
give a reason for one, and the reset.
-/

namespace ClipboardWatchdog

variable {σ ω α : Type}

/-! ### Work that leaves the engine alone -/

/-- Work on the surroundings in two parts is two pieces of work on the surroundings. -/
lemma aside_bind {β : Type} (a : Aside ω α) (f : α → Aside ω β) :
    (aside (a >>= f) : Act σ ω β) = aside a >>= fun x => aside (f x) := by
  refine ExceptT.ext (StateT.ext fun s => ?_)
  rw [run_aside, run_run_bind, run_run_bind, run_aside]
  rcases a.run.run s.around with ⟨fault | x, around⟩ <;> rfl

namespace Keeps

variable {e : Engine σ}

lemma engine_aside (a : Aside ω α) :
    Keeps (fun s : Scene σ ω => s.engine = e) (aside a : Act σ ω α) := fun _ h => h

lemma engine_onWatch (f : Watch → Watch) :
    Keeps (fun s : Scene σ Watch => s.engine = e) (Work.onWatch f : Work σ Unit) := fun _ h => h

lemma engine_clockText :
    Keeps (fun s : Scene σ Watch => s.engine = e) (Work.clockText : Work σ String) :=
  Keeps.bind (.bind (.bind .get fun _ => .pure _) fun _ => engine_aside _) fun _ => .pure _

lemma engine_emit (w : Watchdog σ) : Keeps (fun s => s.engine = e) w.emit := by
  rw [Watchdog.emit]
  split
  · exact .pure ()
  · refine .bind (.bind .get fun _ => .pure _) fun _ => .bind (.bind .get fun _ => .pure _) fun _ =>
      (engine_onWatch _).bind fun _ => ?_
    split
    · exact .pure ()
    · exact .throw _

lemma engine_say (w : Watchdog σ) (message : String) :
    Keeps (fun s => s.engine = e) (w.say message) :=
  (engine_onWatch _).bind fun _ => engine_emit w

end Keeps

/-- What the receiver of the status is handed next. -/
def Scene.delivery (s : Scene σ Watch) : Delivery :=
  ⟨s.around.status.text, s.around.monitor.counter.count, s.engine.runs⟩

namespace Watchdog

variable (w : Watchdog σ)

lemma run_emit (s : Scene σ Watch) :
    w.emit.run.run s =
      match w.receiver with
      | none => (.ok (), s)
      | some receive =>
        ((match receive s.delivery with
          | none => .ok ()
          | some fault => .error fault),
          { s with around := { s.around with
            deliveries := s.around.deliveries ++ [s.delivery] } }) := by
  unfold emit
  cases w.receiver with
  | none => rfl
  | some receive =>
    change (match receive s.delivery with
      | none => return ()
      | some fault => throw fault : Work σ Unit).run.run _ = _
    dsimp only
    cases receive s.delivery <;> rfl

/-- Puts the number of resets into the status. -/
def showRuns : Work σ Unit := do
  let n ← Work.runs
  Work.onStatus fun s => { s with resets := n }
  w.emit

/-- Tells how a reset went. -/
def tell (reason : Reason) : Outcome → Work σ Unit
  | .completed report => do
    report.failures.forM fun failure => Work.note (·.warn failure)
    if report.recovered then
      Work.note (·.ok report.summary)
      Work.note (·.diag ("Health after reset: " ++ report.healthAfter.summary))
      w.say ("Last reset " ++ (← Work.clockText) ++ " (" ++ reason.describe ++ ")")
    else
      Work.note (·.error report.summary)
      w.say ("Reset failed (" ++ reason.describe ++ ")")
    w.showRuns
  | .coalesced => Work.note (·.info (skipText reason))
  | .failed message => do
    Work.note (·.error ("Reset (" ++ reason.describe ++ ") aborted: " ++ message))
    w.say ("Reset error: " ++ message)

lemma remediate_eq (reason : Reason) :
    w.remediate reason = do
      let outcome ← liftM (reset w.host Watch.dropManual w.config.helper reason)
      w.tell reason outcome
      return outcome := by
  refine congrArg (liftM (reset w.host Watch.dropManual w.config.helper reason) >>= ·) ?_
  funext outcome
  cases outcome with
  | completed report =>
    simp only [tell, showRuns]
    split <;> simp only [bind_assoc]
  | coalesced => rfl
  | failed message => simp only [tell, bind_assoc]

/-- Telling of a reset has no part in the engine. -/
lemma keeps_engine_tell {e : Engine σ} (reason : Reason) (outcome : Outcome) :
    Keeps (fun s => s.engine = e) (w.tell reason outcome) := by
  cases outcome with
  | completed report =>
    have hcount : Keeps (fun s => s.engine = e) w.showRuns :=
      .bind (.bind .get fun _ => .pure _) fun _ =>
        (Keeps.engine_onWatch _).bind fun _ => .engine_emit w
    refine (Keeps.forM fun _ _ => .engine_aside _).bind fun _ => .ite ?_ ?_
    · exact (Keeps.engine_aside _).bind fun _ => (Keeps.engine_aside _).bind fun _ =>
        Keeps.engine_clockText.bind fun _ => (Keeps.engine_say w _).bind fun _ => hcount
    · exact (Keeps.engine_aside _).bind fun _ => (Keeps.engine_say w _).bind fun _ => hcount
  | coalesced => exact .engine_aside _
  | failed message => exact (Keeps.engine_aside _).bind fun _ => .engine_say w _

/-- What comes of asking for a reset is what the engine makes of it, unless telling of it is broken
off. -/
lemma run_remediate (reason : Reason) (s : Scene σ Watch) :
    let r := (reset w.host Watch.dropManual w.config.helper reason).run s
    let t := (w.remediate reason).run.run s
    t.2.engine = r.2.engine ∧ ∀ outcome, t.1 = .ok outcome → outcome = r.1 := by
  intro r t
  have hrun : t = ((w.tell reason r.1 >>= fun _ => pure r.1).run.run r.2) := by
    simp only [t, remediate_eq]
    rw [run_run_bind, run_run_lift]
  have hengine := w.keeps_engine_tell reason r.1 r.2 rfl
  rw [run_run_bind] at hrun
  revert hrun hengine
  rcases (w.tell reason r.1).run.run r.2 with ⟨fault | ⟨⟩, s'⟩
  · intro hrun hengine
    rw [hrun]
    exact ⟨hengine, fun _ h => by cases h⟩
  · intro hrun hengine
    rw [hrun]
    exact ⟨hengine, fun _ h => (Except.ok.inj h).symm⟩

/-- What comes before a reset that the user asks for. -/
def leadReset : Work σ Unit := do
  Work.note (·.info manualText)
  Work.onMonitor (·.pause)

lemma resetManually_eq :
    w.resetManually = (do
      leadReset
      let outcome ← w.remediate .manual
      Work.onMonitor (·.resume)
      return outcome) := by
  simp only [resetManually, leadReset, bind_assoc]

/-! ### Ticks -/

/-- Puts the number of a copy into the status. -/
def showCopy (copy : Copy) : Work σ Unit := do
  Work.onStatus fun s => { s with copies := copy.number }
  w.emit

/-- Looks at the helper after a copy. It may need a restart, or one may be due. -/
def checkHelper (copy : Copy) : Work σ (Option Reason) := do
  let health ← w.recordHealth
  if health.needsRestart then
    Work.note (·.warn ("Helper needs restart: " ++ ", ".intercalate health.restartReasons))
    return some .unhealthy
  else if copy.resetDue then
    Work.note (·.info ("Scheduled reset after " ++ Text.decimal copy.number ++ " copies"))
    return some .scheduled
  else return none

/-- All that follows from the report of a tick before a reset is asked for, and the reason to ask
for one. -/
def lead (poll : Poll) : Work σ (Option Reason) := do
  match poll.outcome with
  | .inaccessible =>
    Work.note (·.warn ("Clipboard inaccessible (read failed or exceeded " ++
      Text.decimal w.config.readLimit.millis ++ "ms)"))
    w.say ("Clipboard inaccessible at " ++ (← Work.clockText))
    return some .clipboardInaccessible
  | .noText | .unchanged => return none
  | .changed copy =>
    Work.note (·.info (copy.line poll.snapshot))
    if copy.signalMissing then
      Work.note (·.warn ("Text changed but OS signal missing (sequence " ++
        Text.decimal copy.sequence ++ " unchanged)"))
    w.showCopy copy
    w.checkHelper copy

/-- The reset that there is a reason for. -/
def follow : Option Reason → Work σ (Option Outcome)
  | none => return none
  | some reason => return some (← w.remediate reason)

lemma onPoll_eq (poll : Poll) : w.onPoll poll = w.lead poll >>= w.follow := by
  unfold onPoll lead
  cases poll.outcome with
  | inaccessible => simp only [onInaccessible, follow, bind_assoc, pure_bind]
  | noText => simp only [follow, pure_bind]
  | unchanged => simp only [follow, pure_bind]
  | changed copy =>
    -- the reset comes at the end of each branch
    simp only [onCopy, showCopy, checkHelper, apply_ite (fun lead => lead >>= w.follow), bind_assoc,
      pure_bind, follow]

/-- A tick of polling up to the reset that it may lead to. -/
def leadPoll (o : Observation) : Work σ (Option Reason) := do
  w.lead (← w.tick o)

lemma pollOnce_eq (o : Observation) : w.pollOnce o = w.leadPoll o >>= w.follow := by
  simp only [pollOnce, leadPoll, onPoll_eq, bind_assoc]

end Watchdog

end ClipboardWatchdog
