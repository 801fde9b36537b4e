/-!
# Counting copies

Polling sees the clipboard at intervals. A copy is counted when the text read differs from the
last text that was read, so that going back to an earlier text counts again, while failed and
empty readings count nothing. Every so many copies a reset of the helper is due.

The clipboard's sequence number is sampled before and after each reading. A new text under a
number that has not moved since the previous reading is a copy that was not signalled. The number
zero means that there is no such counter.
-/

namespace ClipboardWatchdog

/-- A text that was counted as a copy. -/
structure Copy where
  number : Nat
  resetDue : Bool
  signalMissing : Bool
  sequence : Nat
  text : String
  deriving DecidableEq, Repr, Inhabited

/-- What one reading of the clipboard showed. -/
inductive PollOutcome
  | inaccessible
  | noText
  | unchanged
  | changed (copy : Copy)
  deriving DecidableEq, Repr, Inhabited

/-- The copies counted so far, the last text and the last sequence number. -/
structure CopyCounter where
  count : Nat := 0
  lastText : Option String := none
  lastSequence : Option Nat := none
  threshold : Nat
  deriving DecidableEq, Repr, Inhabited

namespace CopyCounter

/-- The number of copies between two scheduled resets, if nothing else is asked for. -/
def defaultThreshold : Nat := 7

/-- A counter that has seen nothing. A threshold of zero acts as one. -/
def new (threshold : Nat) : CopyCounter := { threshold := max threshold 1 }

/-- The text is new and the sequence number, sampled before and after it was read, is the one of
the previous reading. -/
def signalMissing (c : CopyCounter) (before after : Nat) : Bool :=
  c.lastText.isSome && after != 0 && c.lastSequence == some before && c.lastSequence == some after

/-- Takes in one reading with the sequence numbers around it. A reading of nothing failed. -/
def observe (c : CopyCounter) (read : Option String) (before after : Nat) :
    PollOutcome × CopyCounter :=
  let seen := { c with lastSequence := some after }
  match read with
  | none => (.inaccessible, seen)
  | some text =>
    if text = "" then (.noText, seen)
    else if c.lastText = some text then (.unchanged, seen)
    else
      let number := c.count + 1
      (.changed
        { number := number
          resetDue := number % c.threshold == 0
          signalMissing := c.signalMissing before after
          sequence := after
          text := text },
        { seen with count := number, lastText := some text })

/-- The threshold never changes. -/
theorem threshold_observe (c : CopyCounter) (read : Option String) (before after : Nat) :
    (c.observe read before after).2.threshold = c.threshold := by
  unfold observe
  split
  · rfl
  · dsimp only
    split
    · rfl
    · split <;> rfl

theorem threshold_new_pos (threshold : Nat) : 0 < (new threshold).threshold := by
  simp only [new]
  omega

end CopyCounter

end ClipboardWatchdog
