import ClipboardWatchdog.Json.Spelling

/-!
# Reading JSON

`Json.read?` takes a whole text: one value with white space around it and nothing else. White
space is the space, the tabulator, the line feed and the carriage return only. Strings are checked
for the shape of their escapes and not for what they spell.
-/

namespace ClipboardWatchdog.Json

open Text

/-- White space between the parts of a JSON text. -/
def isSpace (c : Char) : Bool := c == ' ' || c == '\n' || c == '\t' || c == '\r'

/-- The text after any white space. -/
def skipSpace (cs : List Char) : List Char := cs.dropWhile isSpace

/-- The spelling of a string and what follows it, from behind the opening quote. -/
def readSpelling : List Char → Option (List Char × List Char)
  | [] => none
  | '\\' :: 'u' :: a :: b :: c :: d :: rest =>
    if (hexUnit? a b c d).isSome then
      (readSpelling rest).map fun (s, r) => ('\\' :: 'u' :: a :: b :: c :: d :: s, r)
    else none
  | '\\' :: e :: rest =>
    if (shortEscape? e).isSome then (readSpelling rest).map fun (s, r) => ('\\' :: e :: s, r)
    else none
  | c :: rest =>
    if c = '"' then some ([], rest)
    else if c = '\\' ∨ c.toNat < 32 then none
    else (readSpelling rest).map fun (s, r) => (c :: s, r)

/-- A row of at least one digit and what follows it. -/
def readRow (cs : List Char) : Option (List Char × List Char) :=
  let run := cs.takeWhile isDigit
  if run.isEmpty then none else some (run, cs.dropWhile isDigit)

/-- The whole part of a number: a zero, or a row of digits that starts with another digit. -/
def readWhole : List Char → Option (List Char × List Char)
  | '0' :: rest =>
    match rest with
    | c :: _ => if isDigit c then none else some (['0'], rest)
    | [] => some (['0'], [])
  | cs => readRow cs

/-- The fraction of a number, empty where there is none. -/
def readFraction : List Char → Option (List Char × List Char)
  | '.' :: rest => (readRow rest).map fun (s, r) => ('.' :: s, r)
  | cs => some ([], cs)

/-- The exponent of a number, empty where there is none. -/
def readExponent : List Char → Option (List Char × List Char)
  | c :: rest =>
    if c = 'e' ∨ c = 'E' then
      match rest with
      | s :: digits =>
        if s = '+' ∨ s = '-' then (readRow digits).map fun (t, r) => (c :: s :: t, r)
        else (readRow rest).map fun (t, r) => (c :: t, r)
      | [] => none
    else some ([], c :: rest)
  | [] => some ([], [])

/-- The spelling of a number and what follows it. -/
def readNumber (cs : List Char) : Option (List Char × List Char) := do
  let (sign, cs) := match cs with
    | '-' :: rest => (['-'], rest)
    | _ => ([], cs)
  let (whole, cs) ← readWhole cs
  let (fraction, cs) ← readFraction cs
  let (exponent, cs) ← readExponent cs
  some (sign ++ whole ++ fraction ++ exponent, cs)

/-- Passes over a word. -/
def readWord (word : List Char) (value : Json) (cs : List Char) : Option (Json × List Char) :=
  if word.isPrefixOf cs then some (value, cs.drop word.length) else none

mutual

/-- A value and what follows it. The fuel bounds the number of values read one inside the other or
one after the other; it never runs out if it exceeds twice the length of the text. -/
def readValue : (fuel : Nat) → List Char → Option (Json × List Char)
  | 0, _ => none
  | fuel + 1, cs =>
    match skipSpace cs with
    | 'n' :: rest => readWord ['n', 'u', 'l', 'l'] .null ('n' :: rest)
    | 't' :: rest => readWord ['t', 'r', 'u', 'e'] (.bool true) ('t' :: rest)
    | 'f' :: rest => readWord ['f', 'a', 'l', 's', 'e'] (.bool false) ('f' :: rest)
    | '"' :: rest => (readSpelling rest).map fun (s, r) => (.string s, r)
    | '[' :: rest =>
      match skipSpace rest with
      | ']' :: rest => some (.array [], rest)
      | rest => (readItems fuel rest).map fun (items, r) => (.array items, r)
    | '{' :: rest =>
      match skipSpace rest with
      | '}' :: rest => some (.object [], rest)
      | rest => (readMembers fuel rest).map fun (members, r) => (.object members, r)
    | rest => (readNumber rest).map fun (s, r) => (.number s, r)

/-- The items of an array, at least one, and what follows the closing bracket. -/
def readItems : (fuel : Nat) → List Char → Option (List Json × List Char)
  | 0, _ => none
  | fuel + 1, cs =>
    match readValue fuel cs with
    | none => none
    | some (item, rest) =>
      match skipSpace rest with
      | ']' :: rest => some ([item], rest)
      | ',' :: rest => (readItems fuel rest).map fun (items, r) => (item :: items, r)
      | _ => none

/-- The members of an object, at least one, and what follows the closing brace. -/
def readMembers : (fuel : Nat) → List Char → Option (List (List Char × Json) × List Char)
  | 0, _ => none
  | fuel + 1, cs =>
    match skipSpace cs with
    | '"' :: rest =>
      match readSpelling rest with
      | none => none
      | some (key, rest) =>
        match skipSpace rest with
        | ':' :: rest =>
          match readValue fuel rest with
          | none => none
          | some (value, rest) =>
            match skipSpace rest with
            | '}' :: rest => some ([(key, value)], rest)
            | ',' :: rest =>
              (readMembers fuel rest).map fun (members, r) => ((key, value) :: members, r)
            | _ => none
        | _ => none
    | _ => none

end

/-- The value that a whole text spells, if it spells one. -/
def read? (text : String) : Option Json :=
  let cs := text.toList
  match readValue (2 * cs.length + 2) cs with
  | some (value, rest) => if (skipSpace rest).isEmpty then some value else none
  | none => none

end ClipboardWatchdog.Json
