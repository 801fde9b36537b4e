import ClipboardWatchdog.Settings.File
import ClipboardWatchdog.Settings.Update
import ClipboardWatchdog.Watchdog.Diagnostics

/-!
# Commands

The commands that a user interface gives: they ask the watchdog that is installed, if there is
one, and look after the settings and their file. A command that cannot be carried out gives an
error; a fault passes through it.
-/

namespace ClipboardWatchdog

/-- Why a command was not carried out. -/
inductive CommandError
  | notRunning
  | resetUnderWay
  | resetFailed (message : String)
  | noSession (error : DiskError)
  | sessionLost
  | refused (error : Settings.UpdateError)
  | notSaved (error : DiskError)
  deriving DecidableEq, Repr, Inhabited

def DiskError.text (e : DiskError) : String := "IO error: " ++ e.message

def CommandError.message : CommandError → String
  | notRunning => "Guard is not running"
  | resetUnderWay => "A reset is already in progress"
  | resetFailed message => "Reset failed: " ++ message
  | noSession e => "Failed to start diagnostic session: " ++ e.text
  | sessionLost => "Diagnostic session closed unexpectedly"
  | refused e => e.message
  | notSaved e => "Failed to save settings: " ++ e.text

/-- The watchdog's scene, the settings in use, and whether the watchdog is installed. -/
structure Desk (σ : Type) where
  scene : Scene σ Watch
  settings : Settings := {}
  installed : Bool := false

/-- What a command does: it changes the desk, may end in an error, and lets a fault through. -/
abbrev Command (σ α : Type) := ExceptT CommandError (ExceptT Fault (StateM (Desk σ))) α

namespace Command

variable {σ α : Type} (w : Watchdog σ) (file : Path)

/-- Lets the watchdog do some work. -/
def work (a : Work σ α) : Command σ α := do
  let desk ← get
  let (result, scene) := a.run.run desk.scene
  set { desk with scene }
  match result with
  | .ok a => return a
  | .error fault => ExceptT.lift (throw fault)

/-- Goes on only if a watchdog is installed. -/
def demandWatchdog : Command σ Unit := do
  if !(← get).installed then throw .notRunning

def getStatus : Command σ Status := do
  demandWatchdog
  return (← work Work.watch).status

def getHealth : Command σ Health := do
  demandWatchdog
  work w.health

def resetHelper : Command σ Report := do
  demandWatchdog
  match ← work w.resetManually with
  | .completed report => return report
  | .coalesced => throw .resetUnderWay
  | .failed message => throw (.resetFailed message)

/-- Enters diagnostic mode. -/
def openMode : Command σ Unit := do
  match ← work w.enableDiagnostics with
  | .error e => throw (.noSession e)
  | .ok () => return ()

/-- Enters diagnostic mode and gives the path of the session file. -/
def enableDiagnostics : Command σ Path := do
  demandWatchdog
  openMode w
  match (← work Work.watch).journal.sessionPath with
  | some path => return path
  | none => throw .sessionLost

def disableDiagnostics : Command σ Unit := do
  demandWatchdog
  work w.disableDiagnostics

def getSettings : Command σ Settings := return (← get).settings

/-- Takes the settings from their file. -/
def initSettings : Command σ Unit :=
  modify fun desk =>
    { desk with settings := (Settings.load desk.scene.around.journal.disk file).1 }

/-- Saves settings and puts them to use. What cannot be saved is not used. -/
def store (s : Settings) : Command σ Unit := do
  let (result, disk) := s.save (← work Work.watch).journal.disk file
  work (Work.onJournal fun j => { j with disk })
  match result with
  | .error e => throw (.notSaved e)
  | .ok () => modify fun desk => { desk with settings := s }

/-- Saves settings and puts them to use, if they break no rule. -/
def replaceSettings (s : Settings) : Command σ Unit := do
  match s.check with
  | some flaw => throw (.refused (.flawed flaw))
  | none => store file s

/-- Switches diagnostic mode, if a watchdog is installed. -/
def switchMode (on : Bool) : Command σ Unit := do
  if (← get).installed then
    if on then openMode w else work w.disableDiagnostics

/-- Updates the settings. They are saved and used before diagnostic mode is switched; everything
else takes effect when the watchdog is started anew. -/
def updateSettings (u : Settings.Update) : Command σ Settings := do
  match (← get).settings.apply u with
  | .error e => throw (.refused e)
  | .ok s =>
    store file s
    if let some on := u.diagnostics then switchMode w on
    return s

end Command

end ClipboardWatchdog
