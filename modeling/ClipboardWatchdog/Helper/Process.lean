import ClipboardWatchdog.Text.Numeral
import ClipboardWatchdog.Time.Moment

/-!
# Processes of the host

What can be asked of the host's process table, and what it answers: the processes of a name, the
measurements of one process, its end, and the start of a new one.
-/

namespace ClipboardWatchdog

open Text

abbrev Pid := Nat

/-- Why a process could not be ended or started. -/
inductive ProcessError
  | notFound (pid : Pid)
  | terminateFailed (pid : Pid)
  | launchFailed (name reason : String)
  deriving DecidableEq, Repr, Inhabited

def ProcessError.message : ProcessError → String
  | notFound pid => "Process " ++ decimal pid ++ " not found"
  | terminateFailed pid => "Failed to terminate process " ++ decimal pid
  | launchFailed name reason => "Failed to launch " ++ name ++ ": " ++ reason

/-- The measurements of a live process. -/
structure Sample where
  pid : Pid
  startTime : Option Moment
  workingSetBytes : Nat
  privateBytes : Nat
  handles : Nat
  threads : Nat
  responding : Bool
  upTime : Span
  deriving DecidableEq, Repr, Inhabited

/-- A call to the host. -/
inductive Call
  | find (name : String)
  | sample (pid : Pid)
  | terminate (pid : Pid)
  | launch (name : String)
  deriving DecidableEq, Repr, Inhabited

/-- What the host answers to a call. -/
abbrev Call.Answer : Call → Type
  | find _ => List Pid
  | sample _ => Option Sample
  | terminate _ => Except ProcessError Unit
  | launch _ => Except ProcessError Pid

end ClipboardWatchdog
