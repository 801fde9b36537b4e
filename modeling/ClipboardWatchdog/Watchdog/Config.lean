import ClipboardWatchdog.Session.Recorder
import ClipboardWatchdog.Settings.Basic

/-!
# Configuration

The values that a watchdog runs with. They come from the settings and stay as they are until it is
started anew.
-/

namespace ClipboardWatchdog

/-- The values that a watchdog runs with. -/
structure Config where
  pollInterval : Span
  readLimit : Span
  resetThreshold : Nat
  helper : String
  settleDelay : Span
  logDirectory : Path
  logBase : String
  logRetention : Nat
  role : Role
  origin : Origin
  deriving DecidableEq, Repr, Inhabited

namespace Config

/-- The folder of the program among the user's files. -/
def folder : String := "RdpClipGuard"

/-- The directory of the session files: the one that is set, or one among the user's data. -/
def logDirectoryOf (dataHome : Path) (s : Settings) : Path :=
  match s.logDirectory with
  | some dir => .ofString dir
  | none => (dataHome.join folder).join "logs"

/-- The place of the settings file among the user's configuration. -/
def settingsFile (configHome : Path) : Path := (configHome.join folder).join "settings.json"

/-- The configuration that settings ask for. -/
def ofSettings (dataHome : Path) (origin : Origin) (s : Settings) : Config where
  pollInterval := .ofMillis s.pollInterval
  readLimit := .ofMillis s.readLimit
  resetThreshold := s.resetThreshold
  helper := s.helper
  settleDelay := .ofMillis s.settleDelay
  logDirectory := logDirectoryOf dataHome s
  logBase := s.logBase
  logRetention := s.logRetention
  role := s.role.resolve
  origin := origin

end Config

end ClipboardWatchdog
