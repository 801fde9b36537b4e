import ClipboardWatchdog.Clipboard.CopyCounter
import ClipboardWatchdog.Session.Role
import ClipboardWatchdog.Text.Blank

/-!
# Settings

What the user can set. `Settings.check` names the first rule that a value breaks; only settings
that break none are ever put to use.
-/

namespace ClipboardWatchdog

open Text

/-- The settings of the watchdog. Times are in milliseconds. -/
structure Settings where
  pollInterval : Nat := 2000
  readLimit : Nat := 2000
  resetThreshold : Nat := CopyCounter.defaultThreshold
  helper : String := "rdpclip.exe"
  settleDelay : Nat := 500
  diagnostics : Bool := false
  logDirectory : Option String := none
  logBase : String := "rdpclip_diag"
  logRetention : Nat := 5
  role : RoleChoice := .auto
  deriving DecidableEq, Repr, Inhabited

/-- A rule that settings can break. -/
inductive SettingsFlaw
  | noThreshold
  | tooFast
  | noRetention
  | noHelper
  | noLogBase
  deriving DecidableEq, Repr, Inhabited

def SettingsFlaw.message : SettingsFlaw → String
  | noThreshold => "reset_threshold must be at least 1"
  | tooFast => "poll_interval_ms and read_timeout_ms must be at least 100"
  | noRetention => "log_retention must be at least 1"
  | noHelper => "helper_process must not be empty"
  | noLogBase => "log_base_name must not be empty"

namespace Settings

/-- The shortest interval between two readings, and the shortest limit for one. -/
def minInterval : Nat := 100

/-- The first rule that the settings break. -/
def check (s : Settings) : Option SettingsFlaw :=
  if s.resetThreshold = 0 then some .noThreshold
  else if s.pollInterval < minInterval ∨ s.readLimit < minInterval then some .tooFast
  else if s.logRetention = 0 then some .noRetention
  else if isBlankText s.helper then some .noHelper
  else if isBlankText s.logBase then some .noLogBase
  else none

/-- The settings break no rule. -/
def isValid (s : Settings) : Bool := s.check.isNone

theorem isValid_default : ({} : Settings).isValid = true := by decide

end Settings

end ClipboardWatchdog
