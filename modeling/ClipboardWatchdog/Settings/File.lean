import ClipboardWatchdog.Settings.Codec
import ClipboardWatchdog.Storage.Disk

/-!
# Settings files

Saving writes the whole file, in a directory that is made if it is missing. Loading never fails: a
file that is missing gives the defaults, and so does one that is unusable, with a warning.
-/

namespace ClipboardWatchdog.Settings

/-- Why a settings file was passed over. -/
inductive Warning
  | unreadable
  | refused (refusal : Refusal)
  deriving DecidableEq, Repr, Inhabited

/-- The settings that a file gives, with the warning if it gives none. -/
def load (d : Disk) (p : Path) : Settings × Option Warning :=
  match d.read p with
  | .error .notFound => ({}, none)
  | .error _ => ({}, some .unreadable)
  | .ok (.bytes _) => ({}, some .unreadable)
  | .ok (.text text) =>
    match parse text with
    | .ok s => (s, none)
    | .error refusal => ({}, some (.refused refusal))

/-- Writes the settings to a file. -/
def save (s : Settings) (d : Disk) (p : Path) : Except DiskError Unit × Disk :=
  match p.parent? with
  | none => d.write p s.render
  | some parent =>
    match d.ensureDirectory parent with
    | (.error e, d) => (.error e, d)
    | (.ok (), d) => d.write p s.render

end ClipboardWatchdog.Settings
