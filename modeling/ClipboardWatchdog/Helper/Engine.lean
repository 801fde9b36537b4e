import ClipboardWatchdog.Helper.Procedure

/-!
# The reset engine

The engine holds the host and runs one reset at a time. A request that arrives while a reset runs,
from inside one of the host's own calls, is dropped: it makes no call and counts no run. A fault in
the course of a reset ends it and never leaves the engine, which is free again afterwards.

What surrounds the engine, `around`, is whatever its user keeps beside it. Work on the surroundings
alone is `Aside` work and never touches the engine; a dropped request leaves its trace by such
work.
-/

namespace ClipboardWatchdog

/-- What the host has been through: a call made to it, or a request that it made during a call. -/
inductive Visit
  | made (call : Call)
  | asked (standing : Standing)
  deriving DecidableEq, Repr, Inhabited

/-- The host, what it has been through, whether a reset is under way, and how many resets have run
to their end. -/
structure Engine (σ : Type) where
  host : σ
  visits : List Visit := []
  busy : Bool := false
  runs : Nat := 0

/-- An engine and what surrounds it. -/
structure Scene (σ ω : Type) where
  engine : Engine σ
  around : ω

/-- Work on a scene that a fault may abandon half way; what was done until then stays done. -/
abbrev Act (σ ω α : Type) := ExceptT Fault (StateM (Scene σ ω)) α

/-- Work on the surroundings of an engine, which a fault may abandon half way. -/
abbrev Aside (ω α : Type) := ExceptT Fault (StateM ω) α

variable {σ ω α : Type}

/-- Goes on only if the clock gave what was asked of it. -/
def Aside.demand : Except ClockFault α → Aside ω α
  | .ok a => return a
  | .error cause => throw (.clock cause)

/-- Does some work on the surroundings. -/
def aside (a : Aside ω α) : Act σ ω α := ExceptT.mk fun s =>
  let (result, around) := a.run.run s.around
  (result, { s with around })

/-- Work on the surroundings acts on them alone: the engine stays as it was. -/
theorem run_aside (a : Aside ω α) (s : Scene σ ω) :
    (aside a).run.run s =
      ((a.run.run s.around).1, { s with around := (a.run.run s.around).2 }) := rfl

namespace Scene

def withHost (s : Scene σ ω) (host : σ) : Scene σ ω := { s with engine := { s.engine with host } }

def visited (s : Scene σ ω) (v : Visit) : Scene σ ω :=
  { s with engine := { s.engine with visits := s.engine.visits ++ [v] } }

/-- The scene with the engine taken by a reset. -/
def taken (s : Scene σ ω) : Scene σ ω := { s with engine := { s.engine with busy := true } }

/-- The scene with the engine free, after a reset that came to its end or not. -/
def freed (s : Scene σ ω) (finished : Bool) : Scene σ ω :=
  let runs := if finished then s.engine.runs + 1 else s.engine.runs
  { s with engine := { s.engine with busy := false, runs } }

/-- What a host learns from a request with this outcome. -/
def standing (s : Scene σ ω) (outcome : Outcome) : Standing :=
  ⟨outcome, s.engine.busy, s.engine.runs⟩

end Scene

/-- Lets the host finish one call. `ask` deals with each request for a reset on the way. -/
def Reply.settle (ask : Act σ ω Standing) : Reply σ α → Act σ ω α
  | answers a s => do
    modify (·.withHost s)
    return a
  | breaks fault s => do
    modify (·.withHost s)
    throw fault
  | asks s resume => do
    modify (·.withHost s)
    let standing ← ask
    modify (·.visited (.asked standing))
    (resume standing (← get).engine.host).settle ask

/-- Makes one call to the host. -/
def makeCall (host : Host σ) (ask : Act σ ω Standing) (c : Call) : Act σ ω c.Answer := do
  modify (·.visited (.made c))
  (host c (← get).engine.host).settle ask

/-- What becomes of a request while a reset is under way: it is dropped. -/
def dropRequest (trace : Aside ω Unit) : Act σ ω Standing := do
  aside trace
  return (← get).standing .coalesced

/-- Runs a reset, unless one is under way. -/
def reset (host : Host σ) (trace : Aside ω Unit) (helper : String) (reason : Reason) :
    StateM (Scene σ ω) Outcome := do
  if (← get).engine.busy then return .coalesced
  modify (·.taken)
  match ← ((restart helper reason).run (makeCall host (dropRequest trace))).run with
  | .ok report =>
    modify (·.freed true)
    return .completed report
  | .error fault =>
    modify (·.freed false)
    return .failed fault.message

/-- A request while a reset is under way is dropped and changes nothing. -/
theorem reset_of_busy (host : Host σ) (trace : Aside ω Unit) (helper : String) (reason : Reason)
    {s : Scene σ ω} (h : s.engine.busy = true) :
    (reset host trace helper reason).run s = (.coalesced, s) := by
  simp [reset, h]
  rfl

end ClipboardWatchdog
