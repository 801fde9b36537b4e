import ClipboardWatchdog.Proofs.Helper.Keeping

/-!
# What a procedure and the host say to each other

An `Exchange` is a call with the answer that came. The exchanges that a procedure goes through
settle what it comes to, whoever answers: `Procedure.Yields`. A run that ends well is a row of
exchanges, each made where the one before it has left off (`run_procedure_eq_ok_iff`). Those of a
reset are given by its `Course`.
-/

namespace ClipboardWatchdog

variable {τ σ ω α β : Type}

/-- A call to the host with its answer. -/
structure Exchange where
  call : Call
  answer : call.Answer

namespace Procedure

/-- With these exchanges the procedure comes to this result. -/
inductive Yields : Procedure α → List Exchange → α → Prop
  | ends (a : α) : Yields (done a) [] a
  | goesOn {c : Call} {next : c.Answer → Procedure α} {answer : c.Answer}
      {exchanges : List Exchange} {a : α} (h : Yields (next answer) exchanges a) :
      Yields (call c next) (⟨c, answer⟩ :: exchanges) a

namespace Yields

lemma pure_iff {a b : α} {exchanges : List Exchange} :
    Yields (pure a) exchanges b ↔ exchanges = [] ∧ b = a := by
  constructor
  · intro h
    cases h
    exact ⟨rfl, rfl⟩
  · rintro ⟨rfl, rfl⟩
    exact .ends b

lemma call_iff {c : Call} {next : c.Answer → Procedure α} {exchanges : List Exchange} {a : α} :
    Yields (.call c next) exchanges a ↔
      ∃ answer rest, exchanges = ⟨c, answer⟩ :: rest ∧ Yields (next answer) rest a := by
  constructor
  · intro h
    cases h with
    | goesOn h => exact ⟨_, _, rfl, h⟩
  · rintro ⟨answer, rest, rfl, h⟩
    exact .goesOn h

/-- The exchanges of two procedures in a row are those of the one and then of the other. -/
lemma bind_iff {p : Procedure α} {f : α → Procedure β} {exchanges : List Exchange} {b : β} :
    Yields (p >>= f) exchanges b ↔
      ∃ front a back, exchanges = front ++ back ∧ Yields p front a ∧ Yields (f a) back b := by
  change Yields (p.bind f) exchanges b ↔ _
  induction p generalizing exchanges with
  | done a =>
    constructor
    · intro h
      exact ⟨[], a, exchanges, rfl, .ends a, h⟩
    · rintro ⟨_, _, back, rfl, hp, hf⟩
      cases hp
      exact hf
  | call c next ih =>
    simp only [Procedure.bind, call_iff, ih]
    constructor
    · rintro ⟨answer, _, rfl, front, a, back, rfl, hp, hf⟩
      exact ⟨⟨c, answer⟩ :: front, a, back, rfl, ⟨answer, front, rfl, hp⟩, hf⟩
    · rintro ⟨_, a, back, rfl, ⟨answer, front, rfl, hp⟩, hf⟩
      exact ⟨answer, front ++ back, rfl, front, a, back, rfl, hp, hf⟩

/-- The exchanges that begin with a call are the call with its answer and those that follow it. -/
lemma ask_bind_iff {c : Call} {f : c.Answer → Procedure β} {exchanges : List Exchange} {b : β} :
    Yields (ask c >>= f) exchanges b ↔
      ∃ answer rest, exchanges = ⟨c, answer⟩ :: rest ∧ Yields (f answer) rest b :=
  call_iff

end Yields

end Procedure

/-- A way of making calls gives these answers in a row, from one state to another. -/
inductive Answered (make : (c : Call) → ExceptT Fault (StateM τ) c.Answer) :
    τ → List Exchange → τ → Prop
  | nil (s : τ) : Answered make s [] s
  | cons {s s₁ s' : τ} {c : Call} {answer : c.Answer} {rest : List Exchange}
      (h : (make c).run.run s = (.ok answer, s₁)) (hrest : Answered make s₁ rest s') :
      Answered make s (⟨c, answer⟩ :: rest) s'

/-- A procedure ends well exactly if its calls are answered with exchanges that make it come to its
result. -/
lemma run_procedure_eq_ok_iff {make : (c : Call) → ExceptT Fault (StateM τ) c.Answer}
    {p : Procedure α} {s s' : τ} {a : α} :
    (p.run make).run.run s = (.ok a, s') ↔
      ∃ exchanges, p.Yields exchanges a ∧ Answered make s exchanges s' := by
  induction p generalizing s with
  | done b =>
    constructor
    · intro h
      cases h
      exact ⟨[], .ends _, .nil _⟩
    · rintro ⟨_, hp, hs⟩
      cases hp
      cases hs
      rfl
  | call c next ih =>
    rw [Procedure.run_call, run_bind_eq_ok]
    constructor
    · rintro ⟨answer, s₁, hcall, hnext⟩
      obtain ⟨rest, hp, hs⟩ := ih answer |>.mp hnext
      exact ⟨⟨c, answer⟩ :: rest, .goesOn hp, .cons hcall hs⟩
    · rintro ⟨_, hp, hs⟩
      cases hp with
      | goesOn hp =>
        cases hs with
        | cons hcall hs => exact ⟨_, _, hcall, (ih _).mpr ⟨_, hp, hs⟩⟩

/-! ### The course of a reset -/

/-- How a lookup of the helper went: the processes that were found, and what sampling the first of
them gave. Where none was found, nothing is sampled. -/
structure Lookup where
  found : List Pid
  sampled : Option Sample

namespace Lookup

def exchanges (name : String) (l : Lookup) : List Exchange :=
  ⟨.find name, l.found⟩ ::
    match l.found with
    | [] => []
    | pid :: _ => [⟨.sample pid, l.sampled⟩]

/-- The first process that was found, with its sample. -/
def first? (l : Lookup) : Option (Pid × Sample) :=
  match l.found, l.sampled with
  | pid :: _, some s => some (pid, s)
  | _, _ => none

def health (l : Lookup) : Health :=
  match l.first? with
  | some (_, s) => .ofSample s
  | none => .notRunning

end Lookup

/-- Looking at the helper gives the health of the first process that is found. -/
lemma exists_lookup_of_yields {name : String} {exchanges : List Exchange} {health : Health}
    (h : (probe name).Yields exchanges health) :
    ∃ l : Lookup, exchanges = l.exchanges name ∧ health = l.health := by
  obtain ⟨found, rest, rfl, hfound⟩ := Procedure.Yields.ask_bind_iff.mp h
  cases found with
  | nil =>
    obtain ⟨rfl, rfl⟩ := Procedure.Yields.pure_iff.mp hfound
    exact ⟨⟨[], none⟩, rfl, rfl⟩
  | cons pid pids =>
    obtain ⟨sampled, rest, rfl, hsampled⟩ := Procedure.Yields.ask_bind_iff.mp hfound
    cases sampled with
    | none =>
      obtain ⟨rfl, rfl⟩ := Procedure.Yields.pure_iff.mp hsampled
      exact ⟨⟨pid :: pids, none⟩, rfl, rfl⟩
    | some s =>
      obtain ⟨rfl, rfl⟩ := Procedure.Yields.pure_iff.mp hsampled
      exact ⟨⟨pid :: pids, some s⟩, rfl, rfl⟩

/-- The termination of some processes: each with what came of it. -/
def terminations (ended : List (Pid × Except ProcessError Unit)) : List Exchange :=
  ended.map fun e => ⟨.terminate e.1, e.2⟩

/-- The text of the failure, if it is one. -/
def failureText? : Except ProcessError Unit → Option String
  | .ok () => none
  | .error e => some e.message

/-- Every process is ended in turn, whatever comes of it. -/
lemma exists_ended_of_yields {pids : List Pid} {exchanges : List Exchange}
    {result : ℕ × List String} (h : (terminateAll pids).Yields exchanges result) :
    ∃ ended : List (Pid × Except ProcessError Unit), ended.map (·.1) = pids ∧
      exchanges = terminations ended ∧
      result = (ended.countP (·.2.isOk), ended.filterMap fun e => failureText? e.2) := by
  induction pids generalizing exchanges result with
  | nil =>
    obtain ⟨rfl, rfl⟩ := Procedure.Yields.pure_iff.mp h
    exact ⟨[], rfl, rfl, rfl⟩
  | cons pid pids ih =>
    obtain ⟨answer, rest, rfl, hrest⟩ := Procedure.Yields.ask_bind_iff.mp h
    cases answer with
    | ok _ =>
      obtain ⟨front, ⟨n, failures⟩, back, rfl, hfront, hback⟩ := Procedure.Yields.bind_iff.mp hrest
      obtain ⟨rfl, rfl⟩ := Procedure.Yields.pure_iff.mp hback
      obtain ⟨ended, rfl, rfl, hresult⟩ := ih hfront
      obtain ⟨rfl, rfl⟩ := Prod.mk.inj hresult
      exact ⟨(pid, .ok ()) :: ended, rfl, by simp [terminations],
        by simp [failureText?, Except.isOk, Except.toBool]⟩
    | error e =>
      obtain ⟨front, ⟨n, failures⟩, back, rfl, hfront, hback⟩ := Procedure.Yields.bind_iff.mp hrest
      obtain ⟨rfl, rfl⟩ := Procedure.Yields.pure_iff.mp hback
      obtain ⟨ended, rfl, rfl, hresult⟩ := ih hfront
      obtain ⟨rfl, rfl⟩ := Prod.mk.inj hresult
      exact ⟨(pid, .error e) :: ended, rfl, by simp [terminations],
        by simp [failureText?, Except.isOk, Except.toBool]⟩

/-- The course of a reset: the processes that were found, each with what came of ending it, what
came of the launch, and how the lookup after that went. -/
structure Course where
  ended : List (Pid × Except ProcessError Unit)
  launched : Except ProcessError Pid
  after : Lookup

namespace Course

/-- What is said in the course of a reset. -/
def exchanges (helper : String) (c : Course) : List Exchange :=
  ⟨.find helper, c.ended.map (·.1)⟩ ::
    (terminations c.ended ++ ⟨.launch helper, c.launched⟩ :: c.after.exchanges helper)

/-- What is reported at the end of it. -/
def report (reason : Reason) (c : Course) : Report where
  reason := reason
  found := c.ended.length
  terminated := c.ended.countP (·.2.isOk)
  failures := c.ended.filterMap fun e => failureText? e.2
  relaunched := c.launched.toOption
  launchError := match c.launched with
    | .ok _ => none
    | .error e => some e.message
  healthAfter := c.after.health
  recovered := !c.after.health.isUnhealthy

end Course

lemma exists_course_of_yields {helper : String} {reason : Reason} {exchanges : List Exchange}
    {report : Report} (h : (restart helper reason).Yields exchanges report) :
    ∃ c : Course, exchanges = c.exchanges helper ∧ report = c.report reason := by
  obtain ⟨pids, rest, rfl, hrest⟩ := Procedure.Yields.ask_bind_iff.mp h
  obtain ⟨front, ⟨n, failures⟩, back, rfl, hended, hback⟩ := Procedure.Yields.bind_iff.mp hrest
  obtain ⟨ended, rfl, rfl, hresult⟩ := exists_ended_of_yields hended
  obtain ⟨rfl, rfl⟩ := Prod.mk.inj hresult
  obtain ⟨launched, rest, rfl, hlaunched⟩ := Procedure.Yields.ask_bind_iff.mp hback
  obtain ⟨looked, health, last, rfl, hlooked, hreport⟩ := Procedure.Yields.bind_iff.mp hlaunched
  obtain ⟨after, rfl, rfl⟩ := exists_lookup_of_yields hlooked
  obtain ⟨rfl, rfl⟩ := Procedure.Yields.pure_iff.mp hreport
  refine ⟨⟨ended, launched, after⟩, by simp [Course.exchanges], ?_⟩
  cases launched <;> simp [Course.report]

/-- A reset that came to its end went through a course: its calls were answered in turn, with
requests meanwhile dropped, and the report is the one of the course. -/
lemma exists_course_of_reset {host : Host σ} {trace : Aside ω Unit} {helper : String}
    {reason : Reason} {s s' : Scene σ ω} {report : Report}
    (h : (reset host trace helper reason).run s = (.completed report, s')) :
    ∃ (c : Course) (t : Scene σ ω),
      Answered (makeCall host (dropRequest trace)) s.taken (c.exchanges helper) t ∧
        s' = t.freed true ∧ report = c.report reason := by
  cases hbusy : s.engine.busy with
  | true =>
    rw [reset_of_busy host trace helper reason hbusy] at h
    cases h
  | false =>
    rw [run_reset_of_free host trace helper reason hbusy] at h
    split at h
    · next report' t hrun =>
      cases h
      obtain ⟨exchanges, hyields, hanswered⟩ := run_procedure_eq_ok_iff.mp hrun
      obtain ⟨c, rfl, rfl⟩ := exists_course_of_yields hyields
      exact ⟨c, t, hanswered, rfl, rfl⟩
    · cases h

end ClipboardWatchdog
