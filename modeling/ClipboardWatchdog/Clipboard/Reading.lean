import ClipboardWatchdog.Time.Span

/-!
# Reading the clipboard

Another program can hold the clipboard open for as long as it likes, so a text is read in the
background and given up after a limit. An attempt that gives up, fails or is cut short by a fault
of the reader is a failed reading with its reason.
-/

namespace ClipboardWatchdog

/-- Why the clipboard could not be read, or its changes not be followed. -/
inductive ClipboardError
  | unavailable (reason : String)
  | timedOut (after : Span)
  | listener (reason : String)
  | unsupported
  deriving DecidableEq, Repr, Inhabited

def ClipboardError.message : ClipboardError → String
  | unavailable reason => "Clipboard unavailable: " ++ reason
  | timedOut after => "Clipboard read timed out after " ++ after.shortText
  | listener reason => "Clipboard listener error: " ++ reason
  | unsupported => "Clipboard change notifications are not supported on this platform"

/-- How an attempt to read the text went: it answered, the reader broke down, or it never came
back. -/
inductive Attempt
  | answered (result : Except ClipboardError String)
  | crashed
  | hung

namespace Attempt

/-- The outcome of an attempt under a limit of time. -/
def bounded (limit : Span) : Attempt → Except ClipboardError String
  | answered result => result
  | crashed => .error (.unavailable "reader thread exited without a result")
  | hung => .error (.timedOut limit)

/-- The text that an attempt read, if it read one. -/
def text? (limit : Span) (a : Attempt) : Option String := (a.bounded limit).toOption

end Attempt

end ClipboardWatchdog
