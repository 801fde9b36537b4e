import ClipboardWatchdog.Session.Name
import ClipboardWatchdog.Session.Role
import ClipboardWatchdog.Storage.Disk
import ClipboardWatchdog.Time.Clock

/-!
# Recording a session

A session writes one file: a header when it is created, a line for every record, three lines for
the title of a section, and a trailer when it is closed. Every line ends in a carriage return and
a line feed. Writing never fails for the caller because of the disk; a record that the disk does
not take is not counted. A clock that cannot be read stops everything that needs the time, and
nothing has been written by then.
-/

namespace ClipboardWatchdog

open Text

/-- The category of a record. -/
inductive Category
  | warn
  | error
  | info
  | ok
  | diag
  deriving DecidableEq, Repr, Inhabited

def Category.label : Category → String
  | warn => "WARN"
  | error => "ERROR"
  | info => "INFO"
  | ok => "OK"
  | diag => "DIAG"

/-- Where a session is recorded, as its header tells it. -/
structure Origin where
  sessionId : String
  machine : String
  system : String
  runtime : String
  deriving DecidableEq, Repr, Inhabited

/-- A session: its file, its role and start, the records written so far, and whether it still
takes records. -/
structure Session where
  path : Path
  role : Role
  startedAt : Moment
  records : Nat := 0
  isOpen : Bool := true
  deriving DecidableEq, Repr, Inhabited

/-- Why a session could not be started. -/
inductive SessionError
  | disk (error : DiskError)
  | clock (fault : ClockFault)
  deriving DecidableEq, Repr, Inhabited

namespace Session

/-- The line around the title of a section. -/
def separator : String := String.ofList (List.replicate 64 '=')

/-- The line of a record: the time of day, the category if it has one, and the message. -/
def line (now : Moment) (category : Option Category) (message : String) : String :=
  "[" ++ String.ofList (Civil.ofMoment now).lineText ++ "] " ++
    (match category with
      | some c => "[" ++ c.label ++ "] "
      | none => "") ++ message

/-- Lines as they stand in a file. -/
def block : List String → String
  | [] => ""
  | line :: lines => line ++ "\r\n" ++ block lines

/-- The lines at the start of a session file. -/
def header (origin : Origin) (role : Role) (startedAt : Moment) (helper : String) : List String :=
  [separator, "RDP CLIPBOARD DIAGNOSTIC SESSION", separator,
    "Role:            " ++ role.label,
    "Session ID:      " ++ origin.sessionId,
    "Session start:   " ++ (Civil.ofMoment startedAt).fullText,
    "Machine:         " ++ origin.machine,
    "OS version:      " ++ origin.system,
    "Runtime:         " ++ origin.runtime,
    "Helper process:  " ++ helper,
    separator]

/-- The lines of a section title. -/
def sectionTitle (title : String) : List String := [separator, title, separator]

/-- The lines at the end of a session file. -/
def trailer (s : Session) (now : Moment) : List String :=
  [separator, "SESSION END", separator,
    "End time:        " ++ (Civil.ofMoment now).fullText,
    "Duration:        " ++ (s.startedAt.elapsed now).upTime,
    "Records:         " ++ decimal s.records,
    separator]

/-- How often a name that is taken makes way for the name of the next second. -/
def maxRetries : Nat := 60

/-- The path of the session file for the second that lies `k` after the start. -/
def candidate (dir : Path) (base : String) (start : Moment) (k : Nat) : Path :=
  dir.join (fileName base (start.later k))

/-- Makes the first candidate file, from the `k`-th on, whose name is not taken. A name of a second
past the end of the calendar does not exist. -/
def openFrom (d : Disk) (dir : Path) (base : String) (start : Moment) :
    (retries k : Nat) → Except SessionError (Path × Disk)
  | 0, k =>
    match d.createNew (candidate dir base start k) with
    | .ok d => .ok (candidate dir base start k, d)
    | .error e => .error (.disk e)
  | retries + 1, k =>
    match d.createNew (candidate dir base start k) with
    | .ok d => .ok (candidate dir base start k, d)
    | .error .alreadyExists =>
      if (start.later (k + 1)).isBeyondCalendar then .error (.clock .movedTooFar)
      else openFrom d dir base start retries (k + 1)
    | .error e => .error (.disk e)

/-- Makes the file of a session: named after its start, or after the first later second whose name
is free. -/
def openFile (d : Disk) (dir : Path) (base : String) (start : Moment) :
    Except SessionError (Path × Disk) :=
  openFrom d dir base start maxRetries 0

/-- Writes the header into the file of a session and gives the session. -/
def start (d : Disk) (now : Moment) (origin : Origin) (path : Path) (role : Role)
    (helper : String) : Session × Disk :=
  ({ path, role, startedAt := now },
    (d.append path (block (header origin role now helper))).2)

/-- Starts a session in a directory, which is made if it is missing before the clock is read. -/
def create (d : Disk) (clock : Clock) (origin : Origin) (dir : Path) (base : String) (role : Role)
    (helper : String) : Except SessionError Session × Disk :=
  match d.ensureDirectory dir with
  | (.error e, d) => (.error (.disk e), d)
  | (.ok (), d) =>
    match clock.read with
    | .error fault => (.error (.clock fault), d)
    | .ok now =>
      match openFile d dir base now with
      | .error e => (.error e, d)
      | .ok (path, d) =>
        let (session, d) := start d now origin path role helper
        (.ok session, d)

/-- Writes one record at a moment. It counts if the disk takes it. -/
def recordAt (s : Session) (d : Disk) (now : Moment) (category : Option Category)
    (message : String) : Session × Disk :=
  if s.isOpen then
    match d.append s.path (block [line now category message]) with
    | (true, d) => ({ s with records := s.records + 1 }, d)
    | (false, d) => (s, d)
  else (s, d)

/-- Writes one record now. The clock is read even if the session takes no more records. -/
def record (s : Session) (d : Disk) (clock : Clock) (category : Option Category)
    (message : String) : Except ClockFault (Session × Disk) := do
  return s.recordAt d (← clock.read) category message

/-- Writes the title of a section, which does not count as a record. -/
def addSection (s : Session) (d : Disk) (title : String) : Session × Disk :=
  if s.isOpen then (s, (d.append s.path (block (sectionTitle title))).2) else (s, d)

/-- Writes the trailer at a moment and takes no more records. Closing again changes nothing. -/
def closeAt (s : Session) (d : Disk) (now : Moment) : Session × Disk :=
  if s.isOpen then
    ({ s with isOpen := false }, (d.append s.path (block (s.trailer now))).2)
  else (s, d)

/-- Closes the session now. The clock is read even if the session is closed already. -/
def close (s : Session) (d : Disk) (clock : Clock) : Except ClockFault (Session × Disk) := do
  return s.closeAt d (← clock.read)

end Session

end ClipboardWatchdog
