import ClipboardWatchdog.Clipboard.Observation

/-!
# The monitor

The monitor polls the clipboard in the background while it is running and not paused. Each turn of
its loop hands the report of one tick to a receiver. A receiver that breaks down loses that report
only: the loop goes on, and nothing that was observed is lost, repeated or changed. A tick that
meets a fault of the clock has no report.
-/

namespace ClipboardWatchdog

/-- The copies counted by polling, whether the loop is running, and whether it is paused. -/
structure Monitor where
  counter : CopyCounter
  running : Bool := false
  paused : Bool := false
  deriving DecidableEq, Repr, Inhabited

namespace Monitor

/-- A monitor that has not been started. -/
def new (threshold : Nat) : Monitor := { counter := .new threshold }

/-- Starts the loop; a loop that is running goes on. -/
def start (m : Monitor) : Monitor := { m with running := true }

def stop (m : Monitor) : Monitor := { m with running := false }

def pause (m : Monitor) : Monitor := { m with paused := true }

def resume (m : Monitor) : Monitor := { m with paused := false }

/-- The loop polls on its next turn. -/
def isPolling (m : Monitor) : Bool := m.running && !m.paused

def tick (limit : Span) (clock : Clock) (o : Observation) (m : Monitor) :
    Except ClockFault Poll × Monitor :=
  let (poll, counter) := Poll.tick limit clock o m.counter
  (poll, { m with counter })

/-- One turn of the loop: a tick, whose report goes to the receiver. What the receiver did before
it broke down stays done. -/
def turn {ρ ε : Type} (limit : Span) (clock : Clock) (receive : Poll → ρ → Except ε Unit × ρ)
    (o : Observation) (m : Monitor) (r : ρ) : Monitor × ρ :=
  if m.isPolling then
    match m.tick limit clock o with
    | (.ok poll, m) => (m, (receive poll r).2)
    | (.error _, m) => (m, r)
  else (m, r)

/-- The loop over a row of observations, one for each turn. -/
def loop {ρ ε : Type} (limit : Span) (clock : Clock) (receive : Poll → ρ → Except ε Unit × ρ) :
    List Observation → Monitor → ρ → Monitor × ρ
  | [], m, r => (m, r)
  | o :: os, m, r =>
    let (m, r) := m.turn limit clock receive o r
    loop limit clock receive os m r

end Monitor

end ClipboardWatchdog
