import ClipboardWatchdog.Clipboard.ChangeTracker
import ClipboardWatchdog.Clipboard.CopyCounter
import ClipboardWatchdog.Clipboard.Reading
import ClipboardWatchdog.Time.Clock

/-!
# Observing the clipboard

An observation is what the clipboard answers while it is looked at once: the sequence number
before, the formats, the attempt to read the text, and the sequence number after. A tick of
polling takes it in as a `Poll`, and a notification as a `Notification`. Both read the clock where
they make a snapshot.
-/

namespace ClipboardWatchdog

/-- The answers of the clipboard during one look at it, in the order in which they are asked
for. -/
structure Observation where
  before : Nat
  formats : List Format
  read : Attempt
  after : Nat

/-- What one tick of polling reports: its outcome, with a snapshot for every copy counted. -/
structure Poll where
  outcome : PollOutcome
  snapshot : Option Snapshot
  deriving DecidableEq, Repr, Inhabited

namespace Poll

/-- The report on an outcome. The snapshot of a copy lists no formats: polling does not ask for
them. -/
def ofOutcome (clock : Clock) : PollOutcome → Except ClockFault Poll
  | .inaccessible => .ok ⟨.inaccessible, none⟩
  | .noText => .ok ⟨.noText, none⟩
  | .unchanged => .ok ⟨.unchanged, none⟩
  | .changed copy => do
    return ⟨.changed copy, some ⟨copy.sequence, some copy.text, [], ← clock.read⟩⟩

/-- One tick of polling. A copy counts even if there is no time for its snapshot. -/
def tick (limit : Span) (clock : Clock) (o : Observation) (c : CopyCounter) :
    Except ClockFault Poll × CopyCounter :=
  let (outcome, c) := c.observe (o.read.text? limit) o.before o.after
  (ofOutcome clock outcome, c)

end Poll

/-- A classified notification. -/
structure Notification where
  kind : ChangeKind
  snapshot : Snapshot
  deriving DecidableEq, Repr, Inhabited

namespace ChangeTracker

/-- Takes in one notification: a snapshot is made and classified. -/
def notify (limit : Span) (clock : Clock) (o : Observation) (t : ChangeTracker) :
    Except ClockFault (Notification × ChangeTracker) := do
  let snapshot : Snapshot := ⟨o.after, o.read.text? limit, o.formats, ← clock.read⟩
  let (kind, t) := t.track snapshot o.before
  return (⟨kind, snapshot⟩, t)

/-- Subscribes to notifications. A session never compares with the one before, so the tracker
starts afresh; notifications themselves are not to be had on this platform. -/
def subscribe (_ : ChangeTracker) : Except ClipboardError Unit × ChangeTracker :=
  (.error .unsupported, new)

end ChangeTracker

end ClipboardWatchdog
