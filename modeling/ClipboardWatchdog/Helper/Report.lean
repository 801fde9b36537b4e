import ClipboardWatchdog.Helper.Health

/-!
# Reports of a reset

A reset ends every instance of the helper, starts a new one and looks at its health. Its report
says what it found and did; the outcome of a request for a reset is a report, or that another
reset was under way, or the fault that cut it short.
-/

namespace ClipboardWatchdog

open Text

/-- Why a reset was asked for. -/
inductive Reason
  | scheduled
  | unhealthy
  | clipboardInaccessible
  | manual
  deriving DecidableEq, Repr, Inhabited

def Reason.describe : Reason → String
  | scheduled => "scheduled"
  | unhealthy => "helper unhealthy"
  | clipboardInaccessible => "clipboard inaccessible"
  | manual => "manual"

/-- What one reset found and did, and the time that it took, which is zero until someone measures
it. -/
structure Report where
  reason : Reason
  found : Nat
  terminated : Nat
  failures : List String
  relaunched : Option Pid
  launchError : Option String
  healthAfter : Health
  recovered : Bool
  elapsed : Span := Span.zero
  deriving DecidableEq, Repr, Inhabited

def Report.summary (r : Report) : String :=
  "Reset (" ++ r.reason.describe ++ "): found " ++ decimal r.found ++
    ", terminated " ++ decimal r.terminated ++
    (if r.failures.isEmpty then ""
      else ", " ++ decimal r.failures.length ++ " failed to terminate") ++
    (match r.relaunched, r.launchError with
      | some pid, _ => ", relaunched PID " ++ decimal pid
      | none, some e => ", relaunch failed: " ++ e
      | none, none => "") ++
    (if r.recovered then ", recovered" else ", NOT recovered") ++
    " in " ++ decimal r.elapsed.millis ++ "ms"

/-- The answer to a request for a reset: it ran to its end, it was dropped because another one was
under way, or a fault cut it short. -/
inductive Outcome
  | completed (report : Report)
  | coalesced
  | failed (message : String)
  deriving DecidableEq, Repr, Inhabited

end ClipboardWatchdog
