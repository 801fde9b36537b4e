import ClipboardWatchdog.Session.Name
import ClipboardWatchdog.Storage.Disk

/-!
# Retention of session files

A directory keeps the newest session files of a base, as many as asked for, and the rest are
removed. The age of a file is the start in its name. Files with other names are left alone, and so
is what cannot be removed.
-/

namespace ClipboardWatchdog.Session

/-- The session files among some names, each with its start. -/
def sessionsAmong (base : String) (names : List String) : List (Civil × String) :=
  names.filterMap fun name => (startOf? base name).map fun start => (start, name)

/-- The first session is not older than the second. -/
def notOlder (a b : Civil × String) : Bool := b.1.instant ≤ a.1.instant

/-- Session files from the newest to the oldest; those of one start stay in their order. -/
def newestFirst (sessions : List (Civil × String)) : List (Civil × String) :=
  sessions.mergeSort notOlder

/-- The names of the session files that go when so many are kept. -/
def expired (base : String) (keep : Nat) (names : List String) : List String :=
  ((newestFirst (sessionsAmong base names)).drop keep).map (·.2)

/-- Removes the named files of a directory and counts those that could be removed. -/
def removeAll (dir : Path) : List String → Disk → Nat × Disk
  | [], d => (0, d)
  | name :: names, d =>
    match d.remove (dir.join name) with
    | .ok d =>
      let (n, d) := removeAll dir names d
      (n + 1, d)
    | .error _ => removeAll dir names d

/-- Removes all but the newest session files of a base from a directory and counts those that are
gone. A directory that cannot be listed is left alone. -/
def sweep (d : Disk) (dir : Path) (base : String) (keep : Nat) : Nat × Disk :=
  match d.list dir with
  | .ok names => removeAll dir (expired base keep names) d
  | .error _ => (0, d)

end ClipboardWatchdog.Session
