import ClipboardWatchdog.Helper.Process

/-!
# Health of the helper

The helper carries copies between two machines. Its health is one sample of its process, or
`notRunning`. The policy that decides on a restart, `needsRestart`, depends on the health alone,
and `restartReasons` gives its reasons: there is one exactly when a restart is needed.
-/

namespace ClipboardWatchdog

open Text

/-- One sample of the helper. -/
structure Health where
  running : Bool := false
  responding : Bool := false
  pid : Pid := 0
  startTime : Option Moment := none
  workingSetMb : Nat := 0
  privateMb : Nat := 0
  handles : Nat := 0
  threads : Nat := 0
  upTime : Span := Span.zero
  deriving DecidableEq, Repr, Inhabited

namespace Health

def notRunning : Health := {}

/-- More handles than this mean that the helper leaks them. -/
def maxHandles : Nat := 1000

/-- A working set beyond this many megabytes is too large. -/
def maxWorkingSetMb : Nat := 50

def bytesPerMb : Nat := 1024 * 1024

/-- The health that a sample shows. -/
def ofSample (s : Sample) : Health where
  running := true
  responding := s.responding
  pid := s.pid
  startTime := s.startTime
  workingSetMb := s.workingSetBytes / bytesPerMb
  privateMb := s.privateBytes / bytesPerMb
  handles := s.handles
  threads := s.threads
  upTime := s.upTime

def leaksHandles (h : Health) : Bool := maxHandles < h.handles

def isBloated (h : Health) : Bool := maxWorkingSetMb < h.workingSetMb

/-- The helper is not running, or it does not respond. -/
def isUnhealthy (h : Health) : Bool := !h.running || !h.responding

/-- The helper should be restarted. -/
def needsRestart (h : Health) : Bool := h.isUnhealthy || h.leaksHandles || h.isBloated

def restartReasons (h : Health) : List String :=
  (if h.running then [] else ["not running"]) ++
    (if h.responding then [] else ["not responding"]) ++
    (if h.leaksHandles then ["handle count above threshold"] else []) ++
    (if h.isBloated then ["working set above threshold"] else [])

/-- A restart is needed exactly when there is a reason for it. -/
theorem restartReasons_eq_nil_iff (h : Health) :
    h.restartReasons = [] ↔ h.needsRestart = false := by
  simp only [restartReasons, needsRestart, isUnhealthy]
  cases h.running <;> cases h.responding <;> cases h.leaksHandles <;> cases h.isBloated <;> simp

def flag (b : Bool) : String := if b then "true" else "false"

def summary (h : Health) : String :=
  if h.running then
    "PID=" ++ decimal h.pid ++ " Responding=" ++ flag h.responding ++
      " WorkingSet=" ++ decimal h.workingSetMb ++ "MB Private=" ++ decimal h.privateMb ++
      "MB Handles=" ++ decimal h.handles ++ " Threads=" ++ decimal h.threads ++
      " Uptime=" ++ h.upTime.upTime ++
      (if h.leaksHandles then " [SUSPICIOUS HANDLES]" else "") ++
      (if h.isBloated then " [HIGH MEMORY]" else "")
  else "not running"

end Health

end ClipboardWatchdog
