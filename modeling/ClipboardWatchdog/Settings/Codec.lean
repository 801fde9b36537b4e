import ClipboardWatchdog.Json.Reader
import ClipboardWatchdog.Json.Writer
import ClipboardWatchdog.Settings.Basic

/-!
# Settings as JSON

A settings file is a JSON object with a member for each field, or an array of the fields in order.
Fields that are missing have their default; members that no field has are passed over. A value of
the wrong kind, or a field given twice, makes the whole file unusable.
-/

namespace ClipboardWatchdog

open Text

namespace Json

/-- The least number that is too large for a whole number in a file. -/
def wholeLimit : Nat := 18446744073709551616

/-- A whole number: digits only, and within 64 bits. -/
def toWhole? : Json → Option Nat
  | number cs =>
    if cs.all isDigit ∧ ofDigits cs < wholeLimit then some (ofDigits cs) else none
  | _ => none

def toText? : Json → Option String
  | string cs => (unescape cs).map String.ofList
  | _ => none

def toBool? : Json → Option Bool
  | bool b => some b
  | _ => none

/-- A value that may be absent, written as null. -/
def toOptional? {α : Type} (read : Json → Option α) : Json → Option (Option α)
  | null => some none
  | v => (read v).map some

/-- A choice of role: its name, or an object with the name as its only member and null as its
value. -/
def toRoleChoice? : Json → Option RoleChoice
  | string cs => do RoleChoice.ofName? (String.ofList (← unescape cs))
  | object [(cs, null)] => do RoleChoice.ofName? (String.ofList (← unescape cs))
  | _ => none

end Json

namespace Settings

/-- The fields of the settings. -/
inductive Field
  | pollInterval
  | readLimit
  | resetThreshold
  | helper
  | settleDelay
  | diagnostics
  | logDirectory
  | logBase
  | logRetention
  | role
  deriving DecidableEq, Repr, Inhabited

namespace Field

/-- The fields in the order in which a file has them. -/
def all : List Field :=
  [pollInterval, readLimit, resetThreshold, helper, settleDelay, diagnostics, logDirectory, logBase,
    logRetention, role]

/-- The name of a field in a file. -/
def key : Field → String
  | pollInterval => "poll_interval_ms"
  | readLimit => "read_timeout_ms"
  | resetThreshold => "reset_threshold"
  | helper => "helper_process"
  | settleDelay => "settle_delay_ms"
  | diagnostics => "diagnostics_enabled"
  | logDirectory => "log_dir"
  | logBase => "log_base_name"
  | logRetention => "log_retention"
  | role => "role"

/-- The field of a name. -/
def ofKey? (key : String) : Option Field := all.find? fun f => f.key = key

theorem mem_all (f : Field) : f ∈ all := by cases f <;> decide

theorem ofKey?_key (f : Field) : ofKey? f.key = some f := by cases f <;> decide

end Field

/-- The value of a field in a file. -/
def get (s : Settings) : Field → Json
  | .pollInterval => .ofNat s.pollInterval
  | .readLimit => .ofNat s.readLimit
  | .resetThreshold => .ofNat s.resetThreshold
  | .helper => .ofText s.helper
  | .settleDelay => .ofNat s.settleDelay
  | .diagnostics => .bool s.diagnostics
  | .logDirectory =>
    match s.logDirectory with
    | some dir => .ofText dir
    | none => .null
  | .logBase => .ofText s.logBase
  | .logRetention => .ofNat s.logRetention
  | .role => .ofText s.role.name

/-- The settings with the value of one field taken from a file, if it is of the field's kind. -/
def set? (s : Settings) (v : Json) : Field → Option Settings
  | .pollInterval => v.toWhole?.map fun n => { s with pollInterval := n }
  | .readLimit => v.toWhole?.map fun n => { s with readLimit := n }
  | .resetThreshold => v.toWhole?.map fun n => { s with resetThreshold := n }
  | .helper => v.toText?.map fun t => { s with helper := t }
  | .settleDelay => v.toWhole?.map fun n => { s with settleDelay := n }
  | .diagnostics => v.toBool?.map fun b => { s with diagnostics := b }
  | .logDirectory => (v.toOptional? Json.toText?).map fun t => { s with logDirectory := t }
  | .logBase => v.toText?.map fun t => { s with logBase := t }
  | .logRetention => v.toWhole?.map fun n => { s with logRetention := n }
  | .role => v.toRoleChoice?.map fun r => { s with role := r }

/-- The settings with the members of an object taken in. `seen` lists the fields given so far; none
may be given again. -/
def setMembers? (s : Settings) (seen : List Field) : List (List Char × Json) → Option Settings
  | [] => some s
  | (cs, v) :: rest => do
    let key ← Json.unescape cs
    match Field.ofKey? (String.ofList key) with
    | none => setMembers? s seen rest
    | some f => if f ∈ seen then none else setMembers? (← s.set? v f) (f :: seen) rest

/-- The settings with the items of an array taken in by position. -/
def setItems? (s : Settings) : List Field → List Json → Option Settings
  | _, [] => some s
  | [], _ :: _ => none
  | f :: fs, v :: vs => do setItems? (← s.set? v f) fs vs

/-- The settings that a JSON value describes. -/
def ofJson? : Json → Option Settings
  | .object members => setMembers? {} [] members
  | .array items => setItems? {} Field.all items
  | _ => none

def members (s : Settings) : List (List Char × Json) :=
  Field.all.map fun f => (Json.escape f.key.toList, s.get f)

def toJson (s : Settings) : Json := .object s.members

/-- The text of a settings file. -/
def render (s : Settings) : String := Json.pretty s.members

/-- Why the text of a file gives no settings: it is not their description, or they break a rule. -/
inductive Refusal
  | malformed
  | flawed (flaw : SettingsFlaw)
  deriving DecidableEq, Repr, Inhabited

/-- The settings that the text of a file describes. -/
def parse (text : String) : Except Refusal Settings :=
  match Json.read? text with
  | none => .error .malformed
  | some v =>
    match ofJson? v with
    | none => .error .malformed
    | some s =>
      match s.check with
      | some flaw => .error (.flawed flaw)
      | none => .ok s

end Settings

end ClipboardWatchdog
