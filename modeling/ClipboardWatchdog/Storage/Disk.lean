import ClipboardWatchdog.Storage.Path
import ClipboardWatchdog.Text.Numeral

/-!
# Disks

A disk is a tree of directories and files, kept as a list of entries: each has the names that lead
to it from the root, which is always there. Entries are listed in the order in which they were
made. Operations fail for the reasons and with the error texts of a POSIX file system.

A full disk still makes and removes entries, but takes no text.
-/

namespace ClipboardWatchdog

/-- Why a disk operation failed. -/
inductive DiskError
  | notFound
  | accessDenied
  | alreadyExists
  | notADirectory
  | isADirectory
  | fileTooLarge
  | nameTooLong
  | nulInName
  deriving DecidableEq, Repr, Inhabited

namespace DiskError

/-- The number of the error; a name that no system call can take has none. -/
def code? : DiskError → Option Nat
  | notFound => some 2
  | accessDenied => some 13
  | alreadyExists => some 17
  | notADirectory => some 20
  | isADirectory => some 21
  | fileTooLarge => some 27
  | nameTooLong => some 36
  | nulInName => none

def description : DiskError → String
  | notFound => "No such file or directory"
  | accessDenied => "Permission denied"
  | alreadyExists => "File exists"
  | notADirectory => "Not a directory"
  | isADirectory => "Is a directory"
  | fileTooLarge => "File too large"
  | nameTooLong => "File name too long"
  | nulInName => "file name contained an unexpected NUL byte"

/-- The text of the error, with its number if it has one. -/
def message (e : DiskError) : String :=
  match e.code? with
  | some n => e.description ++ " (os error " ++ Text.decimal n ++ ")"
  | none => e.description

end DiskError

/-- The content of a file: text where its bytes spell text, else the bytes. -/
inductive Content
  | text (value : String)
  | bytes (value : ByteArray)

/-- The content that the bytes make up. -/
def Content.ofBytes (b : ByteArray) : Content :=
  match String.fromUTF8? b with
  | some s => .text s
  | none => .bytes b

/-- What stands at a place on a disk. -/
inductive Entry
  | file (content : Content)
  | directory

/-- A place on a disk: the names that lead to it from the root. -/
abbrev Place := List String

/-- Directories and files in the order in which they were made. -/
structure Disk where
  entries : List (Place × Entry)
  full : Bool := false

namespace Disk

/-- A disk with nothing but its root. -/
def empty : Disk := { entries := [] }

/-- What stands at a place. -/
def lookup (d : Disk) (place : Place) : Option Entry :=
  if place = [] then some .directory
  else (d.entries.find? fun e => e.1 = place).map (·.2)

def insert (d : Disk) (place : Place) (entry : Entry) : Disk :=
  { d with entries := d.entries ++ [(place, entry)] }

/-- The disk with another entry at a place that holds one. -/
def replace (d : Disk) (place : Place) (entry : Entry) : Disk :=
  { d with entries := d.entries.map fun e => if e.1 = place then (place, entry) else e }

def erase (d : Disk) (place : Place) : Disk :=
  { d with entries := d.entries.filter fun e => e.1 ≠ place }

/-- The longest name that an entry may have, in bytes. -/
def maxName : Nat := 255

/-- A path from this length on, in bytes, is refused. -/
def maxPath : Nat := 4096

/-- The place of a name inside the directory at `here`, if the name may stand there. -/
def step (d : Disk) (here : Place) (name : String) : Except DiskError (Place × Option Entry) :=
  if maxName < name.utf8ByteSize then .error .nameTooLong
  else .ok (here ++ [name], d.lookup (here ++ [name]))

/-- Follows segments from a directory to a directory. -/
def walk (d : Disk) (here : Place) : List String → Except DiskError Place
  | [] => .ok here
  | segment :: rest =>
    if Path.isIdle segment then d.walk here rest
    else if segment = ".." then d.walk here.dropLast rest
    else
      match d.step here segment with
      | .error e => .error e
      | .ok (place, some .directory) => d.walk place rest
      | .ok (_, some (.file _)) => .error .notADirectory
      | .ok (_, none) => .error .notFound

/-- Where a path ends: at a directory it has been followed into, or at a name inside a directory.
`strict` says that the path demands a directory there, by a slash at its end. -/
inductive End
  | inside (place : Place)
  | named (here : Place) (name : String) (strict : Bool)

/-- Refuses the paths that no call can take. -/
def checkPath (p : Path) : Except DiskError Unit :=
  if p.chars.contains (Char.ofNat 0) then .error .nulInName
  else if p.chars = [] then .error .notFound
  else if maxPath ≤ p.toString.utf8ByteSize then .error .nameTooLong
  else .ok ()

/-- Follows a path to where it ends. -/
def locate (d : Disk) (p : Path) : Except DiskError End :=
  match checkPath p with
  | .error e => .error e
  | .ok () =>
    let slashes := p.segments.reverse.takeWhile (· = "")
    match p.segments.reverse.drop slashes.length with
    | [] => .ok (.inside [])
    | last :: front =>
      match d.walk [] front.reverse with
      | .error e => .error e
      | .ok here =>
        if last = "." then .ok (.inside here)
        else if last = ".." then .ok (.inside here.dropLast)
        else .ok (.named here last (!slashes.isEmpty))

/-- What stands where a path ends. -/
def stat (d : Disk) (p : Path) : Except DiskError (Place × Entry) :=
  match d.locate p with
  | .error e => .error e
  | .ok (.inside place) => .ok (place, .directory)
  | .ok (.named here name strict) =>
    match d.step here name with
    | .error e => .error e
    | .ok (_, none) => .error .notFound
    | .ok (place, some (.file c)) => if strict then .error .notADirectory else .ok (place, .file c)
    | .ok (place, some .directory) => .ok (place, .directory)

def isDirectory (d : Disk) (p : Path) : Bool :=
  match d.stat p with
  | .ok (_, .directory) => true
  | _ => false

def makeDirectory (d : Disk) (p : Path) : Except DiskError Disk :=
  match d.locate p with
  | .error e => .error e
  | .ok (.inside _) => .error .alreadyExists
  | .ok (.named here name _) =>
    match d.step here name with
    | .error e => .error e
    | .ok (_, some _) => .error .alreadyExists
    | .ok (place, none) => .ok (d.insert place .directory)

/-- Makes a directory and those above it that are missing; one that is there already is fine. The
directories made before a failure stay. The fuel bounds the directories above the first. -/
def makeDirectories (d : Disk) (p : Path) : (fuel : Nat) → Except DiskError Unit × Disk
  | 0 => (.error .notFound, d)
  | fuel + 1 =>
    if p.chars = [] then (.ok (), d)
    else
      match d.makeDirectory p with
      | .ok d => (.ok (), d)
      | .error .notFound =>
        match p.parent? with
        | none => (.error .notFound, d)
        | some parent =>
          match d.makeDirectories parent fuel with
          | (.error e, d) => (.error e, d)
          | (.ok (), d) =>
            match d.makeDirectory p with
            | .ok d => (.ok (), d)
            | .error e => if d.isDirectory p then (.ok (), d) else (.error e, d)
      | .error e => if d.isDirectory p then (.ok (), d) else (.error e, d)

/-- Makes a directory and all those above it. -/
def ensureDirectory (d : Disk) (p : Path) : Except DiskError Unit × Disk :=
  d.makeDirectories p (p.segments.length + 1)

/-- Makes an empty file where nothing stands. -/
def createNew (d : Disk) (p : Path) : Except DiskError Disk :=
  match d.locate p with
  | .error e => .error e
  | .ok (.inside _) => .error .alreadyExists
  | .ok (.named here name strict) =>
    if strict then .error .isADirectory
    else
      match d.step here name with
      | .error e => .error e
      | .ok (_, some _) => .error .alreadyExists
      | .ok (place, none) => .ok (d.insert place (.file (.text "")))

/-- Appends a text to an open file and says whether the disk took it. A file that has been removed
meanwhile still takes the text, which nobody can read any more. -/
def append (d : Disk) (p : Path) (text : String) : Bool × Disk :=
  if d.full then (false, d)
  else
    match d.stat p with
    | .ok (place, .file (.text old)) => (true, d.replace place (.file (.text (old ++ text))))
    | _ => (true, d)

/-- Writes a whole file, a new one or over the old. A full disk leaves it empty. -/
def write (d : Disk) (p : Path) (text : String) : Except DiskError Unit × Disk :=
  let finish (d : Disk) (place : Place) : Except DiskError Unit × Disk :=
    if d.full then (.error .fileTooLarge, d.replace place (.file (.text "")))
    else (.ok (), d.replace place (.file (.text text)))
  match d.locate p with
  | .error e => (.error e, d)
  | .ok (.inside _) => (.error .isADirectory, d)
  | .ok (.named here name strict) =>
    if strict then (.error .isADirectory, d)
    else
      match d.step here name with
      | .error e => (.error e, d)
      | .ok (_, some .directory) => (.error .isADirectory, d)
      | .ok (place, some (.file _)) => finish d place
      | .ok (place, none) => finish (d.insert place (.file (.text ""))) place

def read (d : Disk) (p : Path) : Except DiskError Content :=
  match d.stat p with
  | .error e => .error e
  | .ok (_, .directory) => .error .isADirectory
  | .ok (_, .file content) => .ok content

/-- The name of an entry that stands directly inside a place. -/
def childName? (here : Place) (place : Place) : Option String :=
  match place.getLast? with
  | some name => if place.dropLast = here then some name else none
  | none => none

def children (d : Disk) (here : Place) : List (String × Entry) :=
  d.entries.filterMap fun e => (childName? here e.1).map fun name => (name, e.2)

/-- The names in a directory, in the order in which they were made. -/
def list (d : Disk) (p : Path) : Except DiskError (List String) :=
  match d.stat p with
  | .error e => .error e
  | .ok (_, .file _) => .error .notADirectory
  | .ok (place, .directory) => .ok ((d.children place).map (·.1))

def remove (d : Disk) (p : Path) : Except DiskError Disk :=
  match d.stat p with
  | .error e => .error e
  | .ok (_, .directory) => .error .isADirectory
  | .ok (place, .file _) => .ok (d.erase place)

end Disk

end ClipboardWatchdog
