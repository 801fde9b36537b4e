import ClipboardWatchdog.Proofs.Helper.Exchanges

/-!
# Hosts that only answer

A host that is asked, answers, and does nothing else. A procedure that it answers is a computation
on the engine alone (`Engine.carryOut`), and so is a reset of a free engine (`Engine.restarted`):
nothing can break it off, and it counts as a run.
-/

namespace ClipboardWatchdog

variable {σ ω α : Type} (answer : (c : Call) → σ → c.Answer × σ)

/-- The host that answers every call at once. It neither breaks down nor asks for anything. -/
def Host.plain : Host σ := fun c s => .answers (answer c s).1 (answer c s).2

namespace Engine

/-- The engine has its host answer a call. -/
def call (c : Call) : StateM (Engine σ) c.Answer := fun e =>
  ((answer c e.host).1, { e with host := (answer c e.host).2, visits := e.visits ++ [.made c] })

/-- The engine has its host answer the calls of a procedure. -/
def carryOut (p : Procedure α) (e : Engine σ) : α × Engine σ := (p.run (call answer)).run e

/-- What a reset comes to: the report, and the engine with one run more. -/
def restarted (helper : String) (reason : Reason) (e : Engine σ) : Report × Engine σ :=
  let done := carryOut answer (restart helper reason) { e with busy := true }
  (done.1, { done.2 with busy := false, runs := done.2.runs + 1 })

/-- Answering calls neither takes nor frees the engine. -/
@[simp] lemma busy_carryOut (p : Procedure α) (e : Engine σ) :
    (carryOut answer p e).2.busy = e.busy := by
  induction p generalizing e with
  | done a => rfl
  | call c next ih => exact ih _ (call answer c e).2

/-- Answering calls is no run of the engine. -/
@[simp] lemma runs_carryOut (p : Procedure α) (e : Engine σ) :
    (carryOut answer p e).2.runs = e.runs := by
  induction p generalizing e with
  | done a => rfl
  | call c next ih => exact ih _ (call answer c e).2

/-- Some exchanges bring a procedure to the result that the answers bring it to. -/
lemma exists_yields_carryOut (p : Procedure α) (e : Engine σ) :
    ∃ exchanges, p.Yields exchanges (carryOut answer p e).1 := by
  induction p generalizing e with
  | done a => exact ⟨[], .ends a⟩
  | call c next ih =>
    obtain ⟨exchanges, h⟩ := ih (call answer c e).1 (call answer c e).2
    exact ⟨_, .goesOn h⟩

variable {answer} {e : Engine σ} {helper : String} {reason : Reason}

lemma reason_restarted : (restarted answer helper reason e).1.reason = reason := by
  obtain ⟨exchanges, h⟩ :=
    exists_yields_carryOut answer (restart helper reason) { e with busy := true }
  obtain ⟨c, -, hreport⟩ := exists_course_of_yields h
  change (carryOut answer (restart helper reason) { e with busy := true }).1.reason = reason
  rw [hreport]
  rfl

@[simp] lemma runs_restarted : (restarted answer helper reason e).2.runs = e.runs + 1 := by
  simp [restarted]

@[simp] lemma busy_restarted : (restarted answer helper reason e).2.busy = false := rfl

end Engine

/-- On a host that only answers, a procedure acts on the engine alone and comes to its end. -/
lemma run_procedure_plain (ask : Act σ ω Standing) (p : Procedure α) (s : Scene σ ω) :
    (p.run (makeCall (.plain answer) ask)).run.run s =
      (.ok (s.engine.carryOut answer p).1,
        { s with engine := (s.engine.carryOut answer p).2 }) := by
  induction p generalizing s with
  | done a => rfl
  | call c next ih =>
    have hcall : (makeCall (.plain answer) ask c).run.run s =
        (.ok (s.engine.call answer c).1, { s with engine := (s.engine.call answer c).2 }) := rfl
    rw [Procedure.run_call, run_run_bind, hcall]
    exact ih _ _

/-- A reset of a free engine is completed. -/
lemma run_reset_plain (trace : Aside ω Unit) (helper : String) (reason : Reason) {s : Scene σ ω}
    (h : s.engine.busy = false) :
    (reset (.plain answer) trace helper reason).run s =
      (.completed (s.engine.restarted answer helper reason).1,
        { s with engine := (s.engine.restarted answer helper reason).2 }) := by
  rw [run_reset_of_free _ trace helper reason h, run_procedure_plain]
  rfl

end ClipboardWatchdog
