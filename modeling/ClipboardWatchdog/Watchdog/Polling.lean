import ClipboardWatchdog.Watchdog.Resetting

/-!
# Polling by the watchdog

Each tick of polling may lead to one reset: because the clipboard could not be read, because the
helper was found unhealthy at a copy, or because enough copies have been counted. Notifications
are only recorded.

In the background, a fault that comes out of a tick ends that tick and not the loop.
-/

namespace ClipboardWatchdog

open Text

/-- The most characters of a text that a record shows. -/
def previewLength : Nat := 40

/-- The record of a copy that polling has counted. -/
def Copy.line (c : Copy) (snapshot : Option Snapshot) : String :=
  let print := (snapshot.bind (·.print)).getD "-"
  let preview := (snapshot.map (·.preview previewLength)).getD ""
  "Copy #" ++ decimal c.number ++ " detected | seq=" ++ decimal c.sequence ++ " | hash=" ++ print ++
    " | len=" ++ decimal c.text.length ++ " | \"" ++ preview ++ "\""

/-- The record begins with the number of the copy and ends with a preview in quotes. -/
theorem Copy.exists_line_eq (c : Copy) (s : Snapshot) :
    ∃ middle, c.line (some s) =
      "Copy #" ++ decimal c.number ++ " detected | seq=" ++ middle ++ " | \"" ++
        s.preview previewLength ++ "\"" :=
  ⟨decimal c.sequence ++ " | hash=" ++ s.print.getD "-" ++ " | len=" ++ decimal c.text.length,
    by simp [line, String.append_assoc]⟩

/-- The record of a notification, which came so long before. -/
def Notification.line (n : Notification) (latency : Span) : String :=
  "Clipboard event: " ++ n.kind.describe ++ " | seq=" ++ decimal n.snapshot.sequence ++
    " | hash=" ++ n.snapshot.print.getD "-" ++ " | len=" ++ decimal n.snapshot.length ++
    " | formats=[" ++ n.snapshot.formatList ++ "] | latency=" ++ decimal latency.millis ++ "ms"

namespace Watchdog

variable {σ : Type} (w : Watchdog σ)

open Work

/-- Deals with a clipboard that could not be read. -/
def onInaccessible : Work σ (Option Outcome) := do
  note (·.warn ("Clipboard inaccessible (read failed or exceeded " ++
    decimal w.config.readLimit.millis ++ "ms)"))
  w.say ("Clipboard inaccessible at " ++ (← clockText))
  return some (← w.remediate .clipboardInaccessible)

/-- Deals with a copy that was counted: the helper's health comes before the schedule. -/
def onCopy (copy : Copy) (snapshot : Option Snapshot) : Work σ (Option Outcome) := do
  note (·.info (copy.line snapshot))
  if copy.signalMissing then
    note (·.warn ("Text changed but OS signal missing (sequence " ++ decimal copy.sequence ++
      " unchanged)"))
  onStatus fun s => { s with copies := copy.number }
  w.emit
  let health ← w.recordHealth
  if health.needsRestart then
    note (·.warn ("Helper needs restart: " ++ ", ".intercalate health.restartReasons))
    return some (← w.remediate .unhealthy)
  else if copy.resetDue then
    note (·.info ("Scheduled reset after " ++ decimal copy.number ++ " copies"))
    return some (← w.remediate .scheduled)
  else return none

/-- Deals with the report of a tick, and gives the outcome of the reset that it led to. -/
def onPoll (poll : Poll) : Work σ (Option Outcome) := do
  match poll.outcome with
  | .inaccessible => w.onInaccessible
  | .noText | .unchanged => return none
  | .changed copy => w.onCopy copy poll.snapshot

def tick (o : Observation) : Work σ Poll := do
  let s ← watch
  let (poll, monitor) := s.monitor.tick w.config.readLimit s.journal.clock o
  onMonitor fun _ => monitor
  aside (.demand poll)

/-- One tick of polling and what follows from it. -/
def pollOnce (o : Observation) : Work σ (Option Outcome) := do
  w.onPoll (← w.tick o)

def onNotification (n : Notification) (latency : Span) : Work σ Unit :=
  note fun j => if n.kind.isAnomaly then j.warn (n.line latency) else j.diag (n.line latency)

/-- One turn of the loop in the background: a tick if the monitor is polling. A fault ends the tick
and is forgotten. -/
def turn (o : Observation) : Work σ Unit := do
  if (← watch).monitor.isPolling then
    tryCatch (do let _ ← w.pollOnce o) fun _ => return ()

end Watchdog

end ClipboardWatchdog
