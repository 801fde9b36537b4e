import ClipboardWatchdog.Session.Recorder

/-!
# The journal

Every record goes to the log of the process. While a session is attached it also goes to the
session's file, where sections are kept too. The journal holds the log, the session, the disk and
the clock that stamps the records in the file. Where the clock cannot be read, a record reaches the
log and not the file.
-/

namespace ClipboardWatchdog

/-- The level of a record in the log of the process. -/
inductive Level
  | error
  | warn
  | info
  | debug
  deriving DecidableEq, Repr, Inhabited

def Level.label : Level → String
  | error => "ERROR"
  | warn => "WARN"
  | info => "INFO"
  | debug => "DEBUG"

/-- The level at which a category is logged. -/
def Level.ofCategory : Option Category → Level
  | some .error => error
  | some .warn => warn
  | some .diag => debug
  | some .info | some .ok | none => info

/-- The log, the attached session, the disk and the clock. -/
structure Journal where
  disk : Disk
  clock : Clock
  log : List (Level × String) := []
  session : Option Session := none

namespace Journal

/-- A session is attached. -/
def isRecording (j : Journal) : Bool := j.session.isSome

/-- The file of the attached session. -/
def sessionPath (j : Journal) : Option Path := j.session.map (·.path)

/-- What comes of writing to a journal: a value, or the fault of the clock that prevented it, and in
either case the journal afterwards. -/
abbrev Written (α : Type) := Except ClockFault α × Journal

/-- Emits one record. -/
def record (j : Journal) (category : Option Category) (message : String) : Written Unit :=
  let log := j.log ++ [(.ofCategory category, message)]
  match j.session with
  | none => (.ok (), { j with log })
  | some s =>
    match s.record j.disk j.clock category message with
    | .error fault => (.error fault, { j with log })
    | .ok (s, disk) => (.ok (), { j with log, disk, session := some s })

/-- Emits a section title, which only a session keeps. -/
def addSection (j : Journal) (title : String) : Journal :=
  match j.session with
  | none => j
  | some s =>
    let (s, disk) := s.addSection j.disk title
    { j with disk, session := some s }

def info (j : Journal) (message : String) : Written Unit := j.record (some .info) message

def ok (j : Journal) (message : String) : Written Unit := j.record (some .ok) message

def warn (j : Journal) (message : String) : Written Unit := j.record (some .warn) message

def error (j : Journal) (message : String) : Written Unit := j.record (some .error) message

def diag (j : Journal) (message : String) : Written Unit := j.record (some .diag) message

/-- Closes the attached session, if there is one, and gives the path of its file. -/
def detach (j : Journal) : Written (Option Path) :=
  match j.session with
  | none => (.ok none, j)
  | some s =>
    match s.close j.disk j.clock with
    | .error fault => (.error fault, { j with session := none })
    | .ok (s, disk) => (.ok (some s.path), { j with disk, session := none })

/-- Attaches a session and closes the one that was attached before. -/
def attach (j : Journal) (s : Session) : Written Unit :=
  let (result, j) := j.detach
  (result.map fun _ => (), { j with session := some s })

end Journal

end ClipboardWatchdog
