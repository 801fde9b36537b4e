import ClipboardWatchdog.Clipboard.Snapshot

/-!
# Classifying notifications

A notification says that the clipboard changed; its kind says how. It is found by comparing the
sequence number and the fingerprint of the text with those of the notification before. A
notification whose text could not be read leaves its sequence number behind and no fingerprint.
-/

namespace ClipboardWatchdog

/-- How the clipboard changed from one notification to the next. -/
inductive ChangeKind
  | baseline
  | textChanged
  | nonTextChange
  | signalMissing
  | duplicate
  | unreadable
  deriving DecidableEq, Repr, Inhabited

namespace ChangeKind

def describe : ChangeKind → String
  | baseline => "baseline"
  | textChanged => "text change"
  | nonTextChange => "non-text change"
  | signalMissing => "text changed but OS signal missing"
  | duplicate => "duplicate notification"
  | unreadable => "clipboard unreadable"

/-- The kinds that point to a defect. -/
def isAnomaly : ChangeKind → Bool
  | signalMissing | unreadable => true
  | _ => false

/-- The kind of a readable change: whether the sequence number moved, and the fingerprints before
and after. Without a text now, a moved number means a change of something else. -/
def between (moved : Bool) (previous current : Option String) : ChangeKind :=
  if moved && current.isNone then nonTextChange
  else
    match moved, previous != current with
    | true, true => textChanged
    | true, false => nonTextChange
    | false, true => signalMissing
    | false, false => duplicate

/-- The kind of a change from the previous sequence number and fingerprint to the current ones. -/
def classify (previousSequence : Option Nat) (previousPrint : Option String) (sequence : Nat)
    (print : Option String) : ChangeKind :=
  match previousSequence with
  | none => baseline
  | some n => between (n != sequence) previousPrint print

end ChangeKind

/-- The sequence number of the last notification and the fingerprint of the last readable one. -/
structure ChangeTracker where
  lastSequence : Option Nat := none
  lastPrint : Option String := none
  deriving DecidableEq, Repr, Inhabited

namespace ChangeTracker

/-- A tracker that has seen nothing: the next readable notification is a baseline. -/
def new : ChangeTracker := {}

/-- Takes in a notification. Its sequence number was sampled after the text was read, and
`before` ahead of it. -/
def track (t : ChangeTracker) (s : Snapshot) (before : Nat) : ChangeKind × ChangeTracker :=
  match s.text with
  | none => (.unreadable, { t with lastSequence := some s.sequence })
  | some _ =>
    let kind :=
      match t.lastSequence with
      | none => .baseline
      | some n => .between (n != before || n != s.sequence) t.lastPrint s.print
    (kind, { lastSequence := some s.sequence, lastPrint := s.print })

end ChangeTracker

end ClipboardWatchdog
