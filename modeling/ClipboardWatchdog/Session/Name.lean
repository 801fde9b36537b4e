import ClipboardWatchdog.Time.StampReader

/-!
# Names of session files

The file of a session is named after the time that the clock on the wall showed when the session was
started. The name is the base, an underscore, the stamp of that time to the second, and `.log`.
`startOf?` finds the start of a session in the name of its file.
-/

namespace ClipboardWatchdog.Session

/-- The ending of every session file. -/
def ending : List Char := ['.', 'l', 'o', 'g']

/-- The characters of the name of a session file with this base and start. -/
def nameChars (base : List Char) (start : Civil) : List Char :=
  base ++ '_' :: start.fileText ++ ending

/-- The name of the file of a session that was started at this time of the clock on the wall. -/
def nameAt (base : String) (start : Civil) : String := String.ofList (nameChars base.toList start)

/-- The name of the file of a session that was started at a moment, by a clock that keeps universal
time. -/
def fileName (base : String) (start : Moment) : String := nameAt base (Civil.ofMoment start)

/-- What follows a text at the start of another. -/
def stripStart (front cs : List Char) : Option (List Char) :=
  if front.isPrefixOf cs then some (cs.drop front.length) else none

/-- What precedes a text at the end of another. -/
def stripEnd (back cs : List Char) : Option (List Char) :=
  if back.isSuffixOf cs then some (cs.take (cs.length - back.length)) else none

/-- The start of a session, read from the characters of a file name. -/
def readName (base cs : List Char) : Option Civil := do
  let cs ← stripStart base cs
  let cs ← stripStart ['_'] cs
  let stamp ← stripEnd ending cs
  Civil.readFileText stamp

/-- The start of the session whose file has this name, if it is a session file of this base. -/
def startOf? (base name : String) : Option Civil := readName base.toList name.toList

end ClipboardWatchdog.Session
