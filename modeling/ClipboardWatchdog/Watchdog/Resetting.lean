import ClipboardWatchdog.Watchdog.Basic

/-!
# Resets by the watchdog

The watchdog asks its engine for a reset, tells the journal and the user how it went, and keeps
the count in the status. A manual reset suspends polling while it lasts.

The host may ask for a manual reset in the middle of one of its calls. While a reset is under way
such a request is dropped; outside a reset it is carried out.
-/

namespace ClipboardWatchdog

open Text

/-- The record of a request that was dropped. -/
def skipText (reason : Reason) : String :=
  "Reset (" ++ reason.describe ++ ") skipped: another reset in progress"

/-- The record with which every manual reset begins. -/
def manualText : String := "Manual reset requested"

/-- The trace of a manual reset that is asked for while another one is under way: two records, and
polling resumed. -/
def Watch.dropManual : Aside Watch Unit := do
  note (·.info manualText)
  onMonitor (·.pause)
  note (·.info (skipText .manual))
  onMonitor (·.resume)

namespace Watchdog

variable {σ : Type} (w : Watchdog σ)

open Work

/-- Runs a reset and tells how it went. -/
def remediate (reason : Reason) : Work σ Outcome := do
  let outcome ← (reset w.host Watch.dropManual w.config.helper reason : StateM (Scene σ Watch) _)
  match outcome with
  | .completed report =>
    report.failures.forM fun failure => note (·.warn failure)
    if report.recovered then
      note (·.ok report.summary)
      note (·.diag ("Health after reset: " ++ report.healthAfter.summary))
      w.say ("Last reset " ++ (← clockText) ++ " (" ++ reason.describe ++ ")")
    else
      note (·.error report.summary)
      w.say ("Reset failed (" ++ reason.describe ++ ")")
    let n ← runs
    onStatus fun s => { s with resets := n }
    w.emit
  | .coalesced => note (·.info (skipText reason))
  | .failed message =>
    note (·.error ("Reset (" ++ reason.describe ++ ") aborted: " ++ message))
    w.say ("Reset error: " ++ message)
  return outcome

/-- A reset that the user asked for. -/
def resetManually : Work σ Outcome := do
  note (·.info manualText)
  onMonitor (·.pause)
  let outcome ← w.remediate .manual
  onMonitor (·.resume)
  return outcome

/-- Makes a call to the host outside a reset: what the host asks for meanwhile is carried out. -/
def call (c : Call) : Work σ c.Answer :=
  makeCall w.host (do
    let outcome ← w.resetManually
    return (← get).standing outcome) c

def health : Work σ Health := (probe w.config.helper).run w.call

def recordHealth : Work σ Health := do
  let health ← w.health
  note (·.diag (w.config.helper ++ " health: " ++ health.summary))
  return health

end Watchdog

end ClipboardWatchdog
