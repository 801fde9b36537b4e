import ClipboardWatchdog.Text.Numeral

/-!
# Clipboard formats

A clipboard offers its content in formats, each with a number. Numbers of the standard formats and
of two reserved ranges have fixed names; from `firstRegistered` on a format is registered by a
program, and its name has to be looked up.
-/

namespace ClipboardWatchdog

open Text

/-- A format that the owner of the clipboard offers. -/
structure Format where
  id : Nat
  name : String
  deriving DecidableEq, Repr, Inhabited

namespace Format

/-- The standard formats and their names. -/
def standard : List (Nat × String) :=
  [(1, "CF_TEXT"), (2, "CF_BITMAP"), (3, "CF_METAFILEPICT"), (4, "CF_SYLK"), (5, "CF_DIF"),
    (6, "CF_TIFF"), (7, "CF_OEMTEXT"), (8, "CF_DIB"), (9, "CF_PALETTE"), (10, "CF_PENDATA"),
    (11, "CF_RIFF"), (12, "CF_WAVE"), (13, "CF_UNICODETEXT"), (14, "CF_ENHMETAFILE"),
    (15, "CF_HDROP"), (16, "CF_LOCALE"), (17, "CF_DIBV5"), (0x80, "CF_OWNERDISPLAY"),
    (0x81, "CF_DSPTEXT"), (0x82, "CF_DSPBITMAP"), (0x83, "CF_DSPMETAFILEPICT"),
    (0x8E, "CF_DSPENHMETAFILE")]

def standardName? (id : Nat) : Option String := standard.lookup id

/-- The first number that a program can register. -/
def firstRegistered : Nat := 0xC000

/-- The name of a number goes by its range: standard, private to a program, a graphics object, or
registered. -/
inductive Kind
  | named (name : String)
  | ownedByProgram (offset : Nat)
  | graphicsObject (offset : Nat)
  | registered
  | unknown
  deriving DecidableEq, Repr

def kind (id : Nat) : Kind :=
  match standardName? id with
  | some name => .named name
  | none =>
    if 0x200 ≤ id ∧ id ≤ 0x2FF then .ownedByProgram (id - 0x200)
    else if 0x300 ≤ id ∧ id ≤ 0x3FF then .graphicsObject (id - 0x300)
    else if firstRegistered ≤ id then .registered
    else .unknown

/-- The name to show for a format number. Only the name of a registered format is looked up. -/
def describe (lookup : Nat → Option String) (id : Nat) : String :=
  match kind id with
  | .named name => name
  | .ownedByProgram n => "CF_PRIVATE+" ++ decimal n
  | .graphicsObject n => "CF_GDIOBJ+" ++ decimal n
  | .registered =>
    (lookup id).getD ("Custom_0x" ++ String.ofList (paddedHex 'A' 4 id))
  | .unknown => "Unknown_" ++ decimal id

end Format

end ClipboardWatchdog
