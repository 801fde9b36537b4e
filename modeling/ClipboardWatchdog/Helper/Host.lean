import ClipboardWatchdog.Helper.Report
import ClipboardWatchdog.Time.Clock

/-!
# Hosts

A host answers calls and changes while it does. Before it answers, it may ask for a manual reset
any number of times, and it may break down with a fault instead of answering. Both are part of its
reply, so that every statement about hosts speaks of these too.
-/

namespace ClipboardWatchdog

/-- What cuts work short: a breakdown that leaves a text, one that leaves something that cannot be
read as a text, or a clock that gives no moment. What a breakdown leaves is thrown away where the
breakdown is dealt with; that this causes no further breakdown is an assumption. -/
inductive Fault
  | text (message : String)
  | unreadable
  | clock (cause : ClockFault)
  deriving DecidableEq, Repr, Inhabited

def Fault.message : Fault → String
  | text m => m
  | unreadable => "unknown panic"
  | clock cause => cause.message

/-- What a host learns when it has asked for a reset in the middle of a call: the outcome, whether
a reset is still under way, and how many resets have run to their end. -/
structure Standing where
  outcome : Outcome
  busy : Bool
  runs : Nat
  deriving DecidableEq, Repr, Inhabited

/-- The rest of a host's work on one call: it answers, it breaks down, or it first asks for a
manual reset and goes on when it knows how that went. -/
inductive Reply (σ α : Type)
  | answers (a : α) (state : σ)
  | breaks (fault : Fault) (state : σ)
  | asks (state : σ) (resume : Standing → σ → Reply σ α)

/-- A host with states in `σ`. -/
abbrev Host (σ : Type) := (c : Call) → σ → Reply σ c.Answer

namespace Reply

/-- The same work, except that every request is taken as dropped without being made. -/
def muted {σ α : Type} (runs : Nat) : Reply σ α → Reply σ α
  | answers a s => answers a s
  | breaks f s => breaks f s
  | asks s resume => muted runs (resume ⟨.coalesced, true, runs⟩ s)

end Reply

end ClipboardWatchdog
