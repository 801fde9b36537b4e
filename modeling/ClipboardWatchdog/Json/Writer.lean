import ClipboardWatchdog.Json.Spelling

/-!
# Writing JSON

Two layouts of the same values: `compact`, without any white space, and `pretty`, where every
member of an object has a line of its own, two spaces deeper than the object.
-/

namespace ClipboardWatchdog.Json

open Text

/-- The JSON string of a text. -/
def ofText (s : String) : Json := .string (escape s.toList)

def ofNat (n : Nat) : Json := .number (digits n)

def ofInt (n : Int) : Json := .number (if n < 0 then '-' :: digits n.natAbs else digits n.natAbs)

/-- An object from its members in order. -/
def ofMembers (members : List (String × Json)) : Json :=
  .object (members.map fun (key, value) => (escape key.toList, value))

/-- A string between its quotes. -/
def quoted (spelling : List Char) : List Char := '"' :: spelling ++ ['"']

mutual

/-- A value without any white space. -/
def compactChars : Json → List Char
  | .null => ['n', 'u', 'l', 'l']
  | .bool true => ['t', 'r', 'u', 'e']
  | .bool false => ['f', 'a', 'l', 's', 'e']
  | .number s => s
  | .string s => quoted s
  | .array items => '[' :: compactItems items
  | .object members => '{' :: compactMembers members

/-- The items of an array and its closing bracket. -/
def compactItems : List Json → List Char
  | [] => [']']
  | [item] => compactChars item ++ [']']
  | item :: items => compactChars item ++ ',' :: compactItems items

/-- The members of an object and its closing brace. -/
def compactMembers : List (List Char × Json) → List Char
  | [] => ['}']
  | [(key, value)] => quoted key ++ ':' :: compactChars value ++ ['}']
  | (key, value) :: members =>
    quoted key ++ ':' :: compactChars value ++ ',' :: compactMembers members

end

/-- A value on one line. -/
def compact (v : Json) : String := String.ofList (compactChars v)

/-- An object with one member to a line. The values themselves stay on their line. -/
def prettyMembers : List (List Char × Json) → List Char
  | [] => ['}']
  | [(key, value)] =>
    ' ' :: ' ' :: quoted key ++ ':' :: ' ' :: compactChars value ++ ['\n', '}']
  | (key, value) :: members =>
    ' ' :: ' ' :: quoted key ++ ':' :: ' ' :: compactChars value ++ ',' :: '\n' ::
      prettyMembers members

/-- An object laid out for a reader: its members on lines of their own. -/
def pretty (members : List (List Char × Json)) : String :=
  String.ofList ('{' :: '\n' :: prettyMembers members)

end ClipboardWatchdog.Json
