import ClipboardWatchdog.Helper.Host

/-!
# Procedures

A procedure is work that needs the host: a result, or a call and the work that follows its answer.
It does not say how calls are answered; `Procedure.run` carries it out with a given way of making
calls. The two procedures of this library are `probe`, which samples the helper, and `restart`,
which ends and starts it.
-/

namespace ClipboardWatchdog

/-- Work that needs the host. -/
inductive Procedure (α : Type)
  | done (a : α)
  | call (c : Call) (next : c.Answer → Procedure α)

namespace Procedure

variable {α β : Type}

/-- One procedure after another. -/
protected def bind (p : Procedure α) (f : α → Procedure β) : Procedure β :=
  match p with
  | done a => f a
  | call c next => call c fun answer => (next answer).bind f

instance : Monad Procedure where
  pure := done
  bind := Procedure.bind

/-- One call. -/
def ask (c : Call) : Procedure c.Answer := call c done

/-- Carries out a procedure with a way of making calls. -/
def run {m : Type → Type} [Monad m] (make : (c : Call) → m c.Answer) : Procedure α → m α
  | done a => pure a
  | call c next => make c >>= fun answer => (next answer).run make

@[simp] theorem run_done {m : Type → Type} [Monad m] (make : (c : Call) → m c.Answer) (a : α) :
    (done a).run make = pure a := rfl

@[simp] theorem run_call {m : Type → Type} [Monad m] (make : (c : Call) → m c.Answer) (c : Call)
    (next : c.Answer → Procedure α) :
    (call c next).run make = make c >>= fun answer => (next answer).run make := rfl

/-- Carrying out two procedures in a row is carrying out the one and then the other. -/
theorem run_bind {m : Type → Type} [Monad m] [LawfulMonad m] (make : (c : Call) → m c.Answer)
    (p : Procedure α) (f : α → Procedure β) :
    (p >>= f).run make = p.run make >>= fun a => (f a).run make := by
  change (p.bind f).run make = _
  induction p with
  | done a => simp [Procedure.bind]
  | call c next ih => simp [Procedure.bind, ih]

end Procedure

/-- Looks up the processes of a name and samples the first. A process that has gone by then counts
as not running. -/
def probe (name : String) : Procedure Health := do
  match ← Procedure.ask (.find name) with
  | [] => return .notRunning
  | pid :: _ =>
    match ← Procedure.ask (.sample pid) with
    | none => return .notRunning
    | some s => return .ofSample s

/-- Ends every process of a list in turn. A failure does not stop the rest; the failures are
collected in order. -/
def terminateAll : List Pid → Procedure (Nat × List String)
  | [] => return (0, [])
  | pid :: pids => do
    match ← Procedure.ask (.terminate pid) with
    | .ok () =>
      let (ended, failures) ← terminateAll pids
      return (ended + 1, failures)
    | .error e =>
      let (ended, failures) ← terminateAll pids
      return (ended, e.message :: failures)

/-- Ends every instance of the helper, starts one, and looks at its health. The helper has
recovered if it is running and responding after that. -/
def restart (helper : String) (reason : Reason) : Procedure Report := do
  let pids ← Procedure.ask (.find helper)
  let (terminated, failures) ← terminateAll pids
  let launched ← Procedure.ask (.launch helper)
  let healthAfter ← probe helper
  return {
    reason := reason
    found := pids.length
    terminated := terminated
    failures := failures
    relaunched := launched.toOption
    launchError := match launched with
      | .ok _ => none
      | .error e => some e.message
    healthAfter := healthAfter
    recovered := !healthAfter.isUnhealthy }

end ClipboardWatchdog
