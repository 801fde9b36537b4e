import ClipboardWatchdog.Clipboard.Format
import ClipboardWatchdog.Digest.Blake3
import ClipboardWatchdog.Text.Blank
import ClipboardWatchdog.Time.Moment

/-!
# Snapshots of a clipboard

A snapshot is what one observation of the clipboard found: the sequence number, the text if it
could be read, the formats on offer and the time. A text that is not empty has a fingerprint, by
which logs are compared: they never show more of a text than its start. For a log line, `formatList`
names the formats and `preview` shows the start of the text on one line.
-/

namespace ClipboardWatchdog

open Text

/-- The fingerprint of a text: the first four bytes of its digest in hexadecimal. -/
def fingerprint (text : String) : String :=
  let word := (Blake3.hash text.toUTF8).low.a.toNat
  let byte (k : Nat) : List Char := fixedHex 'a' 2 (word >>> (8 * k))
  String.ofList (byte 0 ++ byte 1 ++ byte 2 ++ byte 3)

/-- What one observation of the clipboard found. No text means that it could not be read; an empty
text means that the clipboard holds none. -/
structure Snapshot where
  sequence : Nat
  text : Option String
  formats : List Format
  observedAt : Moment
  deriving DecidableEq, Repr, Inhabited

namespace Snapshot

/-- The fingerprint of a text that is not empty. -/
def fingerprintOf (text : Option String) : Option String :=
  match text with
  | some t => if t = "" then none else some (fingerprint t)
  | none => none

/-- The fingerprint of the text, if there is one that is not empty. -/
def print (s : Snapshot) : Option String := fingerprintOf s.text

/-- The number of characters of the text. -/
def length (s : Snapshot) : Nat := (s.text.getD "").length

/-- The formats for a log line. -/
def formatList (s : Snapshot) : String :=
  if s.formats.isEmpty then "(none)"
  else ", ".intercalate (s.formats.map fun f => decimal f.id ++ ":" ++ f.name)

/-- At most `most` characters, with three dots in place of what is left out. -/
def ellipsis (most : Nat) (cs : List Char) : List Char :=
  if cs.length ≤ most then cs else cs.take most ++ ['.', '.', '.']

/-- The start of the text on one line: control characters are shown as spaces, blanks at either
end are left out, and what goes beyond `most` characters is cut. -/
def preview (most : Nat) (s : Snapshot) : String :=
  match s.text with
  | none => "(no text)"
  | some t => String.ofList (ellipsis most (trim (flatten t.toList)))

end Snapshot

end ClipboardWatchdog
