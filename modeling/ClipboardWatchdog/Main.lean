import ClipboardWatchdog.Control.Answer
import ClipboardWatchdog.Helper.ProcessTable
import Std.Time.DateTime.Timestamp

/-!
# Command line

The watchdog on its own, where neither a clipboard nor processes can be reached: every line of
standard input is what the clipboard holds at the next tick of polling, and the process table has
no process. The records of the log and the status lines go to standard output. With `--diagnostic`
among its arguments the watchdog starts in diagnostic mode. It shuts down where its input ends, and
prints the session files that it has kept.
-/

namespace ClipboardWatchdog.Main

/-- The argument that asks for diagnostic mode. -/
def diagnosticFlag : String := "--diagnostic"

def origin : Origin := ⟨"-", "unknown", "unknown", "ClipboardWatchdog"⟩

def watchdog : Watchdog ProcessTable where
  config := .ofSettings (.ofString ".") origin {}
  host := ProcessTable.host
  receiver := some fun _ => none

/-- The watchdog with all that it drives. -/
abbrev Station := Scene ProcessTable Watch

/-- What the clipboard answers when it has come to hold a text as the `n`-th. -/
def observation (n : Nat) (text : String) : Observation where
  before := n
  formats := []
  read := .answered (.ok text)
  after := n

/-- The lines that tell what has been logged and delivered. -/
def told (s : Station) : List String :=
  s.around.journal.log.map (fun (level, message) => level.label ++ " " ++ message) ++
    s.around.deliveries.map fun d => "STATUS " ++ d.text

def fileTexts (s : Station) : List String :=
  s.around.journal.disk.entries.filterMap fun e =>
    match e.2 with
    | .file (.text t) => some t
    | _ => none

/-- What the watchdog does when it starts. -/
def startUp (diagnostic : Bool) : Work ProcessTable Unit := do
  watchdog.start
  if diagnostic then
    let _ ← watchdog.enableDiagnostics

/-- The system's clock as it stands. -/
def systemClock : IO Clock := do
  let t ← Std.Time.Timestamp.now
  let nanos := t.toNanosecondsSinceUnixEpoch.val
  return ⟨⟨nanos / 1000000000, (nanos % 1000000000).toNat⟩⟩

/-- Carries out some work now and prints what there is to tell. -/
def perform (work : Work ProcessTable Unit) (s : Station) : IO Station := do
  let (_, s) := work.run.run (s.withClock (← systemClock))
  for line in told s do
    IO.println line
  return s.quiet

/-- Polls once for each line of the input. -/
partial def poll (input : IO.FS.Stream) (n : Nat) (s : Station) : IO Station := do
  let line ← input.getLine
  if line.isEmpty then return s
  let text := (line.dropEndWhile Char.isWhitespace).toString
  poll input (n + 1) (← perform (watchdog.turn (observation n text)) s)

/-- Runs the watchdog until the input ends. -/
def run (arguments : List String) : IO Unit := do
  let opening := watchdog.opening {} .empty (← systemClock)
  let s ← perform (startUp (arguments.contains diagnosticFlag)) opening
  let s ← poll (← IO.getStdin) 1 s
  let s ← perform watchdog.shutdown s
  for text in fileTexts s do
    IO.print text

end ClipboardWatchdog.Main

/-- The program. -/
def main (arguments : List String) : IO Unit := ClipboardWatchdog.Main.run arguments
