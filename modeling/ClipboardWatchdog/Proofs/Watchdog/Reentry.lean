import ClipboardWatchdog.Proofs.Helper.Requests
import ClipboardWatchdog.Proofs.Watchdog.Telling
import ClipboardWatchdog.Proofs.Watchdog.UnreadableClock

/-!
# Requests to a watchdog in the course of a reset

While a watchdog's reset is under way, the host may ask it for manual resets. Each such request is
dropped, and all that it leaves is a trace in the journal. Where the journal could not take that
trace no reset is begun, because each begins with a record, so that a reset never meets a request
that it could not drop. `reset_undisturbed` says what this means for the resets of a watchdog, and
for those of an engine that is asked by its host directly.
-/

namespace ClipboardWatchdog

variable {σ ω : Type}

/-- What a host does when it asks the engine itself for a reset. The reason that it gives may depend
on the state that it is in. -/
def requestReset (host : Host σ) (helper : String) (reason : σ → Reason) : Act σ ω Standing := do
  let state := (← get).engine.host
  let outcome ← (reset host (pure ()) helper (reason state) : StateM (Scene σ ω) _)
  return (← get).standing outcome

/-- A request to the engine that is made while a reset is under way does what dropping it does. -/
lemma run_requestReset_of_busy (host : Host σ) (helper : String) (reason : σ → Reason)
    {s : Scene σ ω} (h : s.engine.busy = true) :
    (requestReset host helper reason).run.run s =
      (dropRequest (pure ()) : Act σ ω Standing).run.run s := by
  have hget : (get : Act σ ω (Scene σ ω)).run.run s = (.ok s, s) := rfl
  rw [requestReset, run_run_bind, hget]
  dsimp only
  rw [run_run_bind, run_run_lift, reset_of_busy _ _ _ _ h]
  rfl

namespace Watchdog

variable (w : Watchdog σ)

/-- What the host of a watchdog does when it asks for a reset. -/
def request : Act σ Watch Standing := do
  let outcome ← w.resetManually
  return (← get).standing outcome

lemma run_remediate_of_busy (reason : Reason) {s : Scene σ Watch} (h : s.engine.busy = true) :
    (w.remediate reason).run.run s =
      (do Work.note (·.info (skipText reason)); return .coalesced : Work σ Outcome).run.run s := by
  rw [remediate_eq, run_run_bind, run_run_lift, reset_of_busy _ _ _ _ h]
  rfl

/-- A request to the watchdog that is made while a reset is under way does what dropping it
does. -/
lemma run_request_of_busy {s : Scene σ Watch} (h : s.engine.busy = true) :
    w.request.run.run s = (dropRequest Watch.dropManual).run.run s := by
  let R (s t : Scene σ Watch) : Prop := s = t ∧ s.engine.busy = true
  have hsame {α : Type} (a : Aside Watch α) : Agree R (aside a) (aside a) := by
    rintro s _ ⟨rfl, hbusy⟩
    exact ⟨rfl, rfl, hbusy⟩
  have hremediate : Agree R (w.remediate .manual)
      (do aside (Watch.note (·.info (skipText .manual))); return .coalesced) := by
    rintro s _ ⟨rfl, hbusy⟩
    rw [run_remediate_of_busy w .manual hbusy]
    exact ((hsame _).bind fun _ => .pure _) s s ⟨rfl, hbusy⟩
  have hget (outcome : Outcome) : Agree R
      (do return (← get).standing outcome) (do return (← get).standing outcome) := by
    rintro s _ ⟨rfl, hbusy⟩
    exact ⟨rfl, rfl, hbusy⟩
  have hdrop : (dropRequest Watch.dropManual : Act σ Watch Standing) = do
      let outcome ← (do
        aside (Watch.note (·.info manualText))
        aside (Watch.onMonitor (·.pause))
        let outcome ← (do
          aside (Watch.note (·.info (skipText .manual)))
          return .coalesced : Act σ Watch Outcome)
        aside (Watch.onMonitor (·.resume))
        return outcome)
      return (← get).standing outcome := by
    simp only [dropRequest, Watch.dropManual, aside_bind, bind_assoc, pure_bind]
  have hagree : Agree R w.request (dropRequest Watch.dropManual) := by
    rw [hdrop]
    exact ((hsame _).bind fun _ => (hsame _).bind fun _ => hremediate.bind fun _ =>
      (hsame _).bind fun _ => .pure _).bind hget
  obtain ⟨hresult, hstate, -⟩ := hagree s s ⟨rfl, h⟩
  exact Prod.ext hresult hstate

/-- Where records are taken, the trace of a request that is dropped can be left. -/
lemma ends_dropManual_of_takesRecords :
    Ends (fun w : Watch => w.journal.TakesRecords) Watch.dropManual
      (fun _ w => w.journal.TakesRecords) fun _ _ => False :=
  .dropManual (fun _ h => h) (fun _ _ _ h => Journal.takesRecords_record h _ _) fun _ _ h => h

/-- A reset that the user asks for is one of the engine, once the request is on record and polling
is suspended. -/
lemma run_resetManually {s : Scene σ Watch} (h : s.around.journal.TakesRecords) :
    ∃ around : Watch, around.journal.TakesRecords ∧
      let r := (reset w.host Watch.dropManual w.config.helper .manual).run { s with around }
      let t := w.resetManually.run.run s
      t.2.engine = r.2.engine ∧ ∀ outcome, t.1 = .ok outcome → outcome = r.1 := by
  let journal := (s.around.journal.info manualText).2
  let around : Watch := { s.around with journal, monitor := s.around.monitor.pause }
  refine ⟨around, Journal.takesRecords_record h _ _, ?_⟩
  have hrun : w.resetManually.run.run s =
      (do let outcome ← w.remediate .manual
          Work.onMonitor (·.resume)
          return outcome : Work σ Outcome).run.run { s with around } := by
    rw [resetManually, run_run_bind, run_note]
    simp only [Journal.info, Journal.record_fst_of_takesRecords h, Except.mapError]
    rfl
  intro r t
  obtain ⟨hengine, hvalue⟩ := w.run_remediate .manual { s with around }
  simp only [t, hrun]
  rw [run_run_bind]
  revert hengine hvalue
  rcases (w.remediate .manual).run.run { s with around } with ⟨fault | outcome, s'⟩
  · intro hengine _
    exact ⟨hengine, fun _ h => by cases h⟩
  · intro hengine hvalue
    refine ⟨hengine, fun _ h => ?_⟩
    cases h
    exact hvalue outcome rfl

/-- Resets are not disturbed by the requests that the host makes in their course, be it to the
engine itself or to the watchdog. A watchdog that begins a reset can leave the trace of such
requests: either records are taken throughout an operation, or nothing of it reaches the engine. And
what comes of asking the watchdog for a reset is what its engine makes of it, unless telling of it
is broken off. -/
theorem reset_undisturbed (helper : String) (reason : Reason) :
    (∀ (ω : Type) (s : Scene σ ω) (requested : σ → Reason), s.engine.busy = false →
      Undisturbed w.host (pure ()) (requestReset w.host helper requested) helper reason s) ∧
    (∀ s : Scene σ Watch, s.engine.busy = false → s.around.journal.TakesRecords →
      Undisturbed w.host Watch.dropManual w.request helper reason s) ∧
    (∀ op, Keeps (fun s => s.around.journal.TakesRecords) (w.perform op)) ∧
    (∀ (s : Scene σ Watch) (step : Clock × Operation),
      ¬(s.withClock step.1).around.journal.TakesRecords → (w.next s step).engine = s.engine) ∧
    (∀ s : Scene σ Watch,
      let r := (reset w.host Watch.dropManual w.config.helper reason).run s
      let t := (w.remediate reason).run.run s
      t.2.engine = r.2.engine ∧ ∀ outcome, t.1 = .ok outcome → outcome = r.1) ∧
    ∀ s : Scene σ Watch, s.around.journal.TakesRecords →
      ∃ around : Watch, around.journal.TakesRecords ∧
        let r := (reset w.host Watch.dropManual w.config.helper .manual).run { s with around }
        let t := w.resetManually.run.run s
        t.2.engine = r.2.engine ∧ ∀ outcome, t.1 = .ok outcome → outcome = r.1 := by
  refine ⟨?_, ?_, w.keeps_takesRecords_perform, ?_, w.run_remediate reason,
    fun s h => w.run_resetManually h⟩
  · intro ω s requested hfree
    have htrace : Ends (fun _ : ω => True) (pure () : Aside ω Unit) (fun _ _ => True)
        fun _ _ => False := .pure fun _ h => h
    exact undisturbed_of_drops htrace
      (fun t => run_requestReset_of_busy w.host helper requested) w.host helper reason hfree trivial
  · intro s hfree htakes
    exact undisturbed_of_drops ends_dropManual_of_takesRecords
      (fun t => w.run_request_of_busy) w.host helper reason hfree htakes
  · intro s step h
    exact w.engine_next_of_not_takesRecords h

end Watchdog

/-- A table whose only process is gone by the time that it is to be ended, and whose host asks for a
reset at that point. -/
def ProcessTable.asking : ProcessTable where
  found := [10]
  asksOn := some .terminate

namespace Watchdog

theorem reset_undisturbed_asking :
    let w := ProcessTable.watchdog 5
    let s := w.opening ProcessTable.asking .empty ⟨⟨1773047107, 0⟩⟩
    let r := (reset w.host Watch.dropManual w.config.helper .scheduled).run s
    s.engine.busy = false ∧ s.around.journal.TakesRecords ∧
      Undisturbed w.host (pure ()) (requestReset w.host w.config.helper fun _ => .manual)
        w.config.helper .scheduled s ∧
      Undisturbed w.host Watch.dropManual w.request w.config.helper .scheduled s ∧
      r.2.engine.visits = [.made (.find "rdpclip.exe"), .made (.terminate 10),
        .asked ⟨.coalesced, true, 0⟩, .made (.launch "rdpclip.exe"),
        .made (.find "rdpclip.exe")] ∧
      r.2.engine.runs = 1 := by
  intro w s r
  have htakes : s.around.journal.TakesRecords := Journal.takesRecords_of_not_recording rfl
  obtain ⟨hengine, hwatchdog, -⟩ := w.reset_undisturbed w.config.helper .scheduled
  exact ⟨rfl, htakes, hengine Watch s (fun _ => .manual) rfl, hwatchdog s rfl htakes,
    by decide +kernel, by decide +kernel⟩

end Watchdog

end ClipboardWatchdog
