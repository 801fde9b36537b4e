import ClipboardWatchdog.Session.Retention
import ClipboardWatchdog.Watchdog.Polling

/-!
# Diagnostic mode

In diagnostic mode a session is attached to the journal. Entering the mode opens a session file,
removes old ones, and records the state of things; leaving it closes the file. Both do nothing
where there is nothing to change. Starting and shutting down the watchdog stand here too.
-/

namespace ClipboardWatchdog

open Text

/-- The record of the old session files that were removed, if there were any. -/
def Journal.noteRemoved (removed : Nat) (j : Journal) : Written Unit :=
  if 0 < removed then j.diag ("Removed " ++ decimal removed ++ " old session file(s)")
  else (.ok (), j)

namespace Watchdog

variable {σ : Type} (w : Watchdog σ)

open Work

/-- Creates the file of a new session and attaches it. -/
def openSession : Work σ (Except DiskError Unit) := do
  let c := w.config
  let j := (← watch).journal
  let (session, disk) :=
    Session.create j.disk j.clock c.origin c.logDirectory c.logBase c.role c.helper
  onJournal fun j => { j with disk }
  match session with
  | .error (.disk e) => return .error e
  | .error (.clock cause) => throw (.clock cause)
  | .ok session =>
    note (·.attach session)
    return .ok ()

/-- Removes the session files that are too old. -/
def removeOld : Work σ Unit := do
  let c := w.config
  note fun j =>
    let (removed, disk) := Session.sweep j.disk c.logDirectory c.logBase c.logRetention
    { j with disk }.noteRemoved removed

/-- Records how things stand at the start of a session. -/
def recordState : Work σ Unit := do
  onJournal (·.addSection "INITIAL STATE")
  let _ ← w.recordHealth
  let copies := (← watch).monitor.counter.count
  let resets ← runs
  note (·.diag ("Copies so far: " ++ decimal copies ++ ", resets so far: " ++ decimal resets))
  onJournal (·.addSection "EVENTS")
  note (·.warn ("Clipboard event listener unavailable: " ++ ClipboardError.unsupported.message))

/-- Enters diagnostic mode, unless it is on. The session file may be impossible to make. -/
def enableDiagnostics : Work σ (Except DiskError Unit) := do
  if (← watch).journal.isRecording then return .ok ()
  match ← w.openSession with
  | .error e => return .error e
  | .ok () =>
    w.removeOld
    w.recordState
    onStatus fun s => { s with diagnostics := true }
    w.emit
    return .ok ()

/-- Leaves diagnostic mode, if it is on. -/
def disableDiagnostics : Work σ Unit := do
  if (← watch).journal.isRecording then
    note (·.info "Diagnostic mode disabled")
    let _ ← note (·.detach)
    onStatus fun s => { s with diagnostics := false }
    w.emit

/-- The record with which the watchdog starts. -/
def startText : String :=
  "Monitoring " ++ w.config.helper ++ " every " ++ decimal w.config.pollInterval.millis ++
    "ms (reset every " ++ decimal w.config.resetThreshold ++ " copies, role " ++
    w.config.role.label ++ ")"

/-- Starts polling in the background. -/
def start : Work σ Unit := do
  note (·.info w.startText)
  let _ ← w.recordHealth
  onMonitor (·.start)
  w.emit

def shutdown : Work σ Unit := do
  onMonitor (·.stop)
  w.disableDiagnostics

end Watchdog

end ClipboardWatchdog
