import ClipboardWatchdog.Settings.Codec
import ClipboardWatchdog.Text.Lowercase

/-!
# Updating settings

An update names some fields and their new values. It is laid over the settings as a whole and
refused as a whole: for a role that is none, or because the settings that come of it break a rule.
-/

namespace ClipboardWatchdog.Settings

open Text

/-- New values for some of the settings. The role is given by its name in any letter case. -/
structure Update where
  pollInterval : Option Nat := none
  readLimit : Option Nat := none
  resetThreshold : Option Nat := none
  settleDelay : Option Nat := none
  diagnostics : Option Bool := none
  logRetention : Option Nat := none
  role : Option String := none
  deriving DecidableEq, Repr, Inhabited

/-- Why an update was refused. -/
inductive UpdateError
  | unknownRole (name : String)
  | flawed (flaw : SettingsFlaw)
  deriving DecidableEq, Repr, Inhabited

def flawText (flaw : SettingsFlaw) : String := "Invalid setting: " ++ flaw.message

def UpdateError.message : UpdateError → String
  | unknownRole name => "Unknown role: " ++ name
  | flawed flaw => flawText flaw

/-- The settings with the values of an update laid over them, but for the role. -/
def overlay (s : Settings) (u : Update) : Settings :=
  { s with
    pollInterval := u.pollInterval.getD s.pollInterval
    readLimit := u.readLimit.getD s.readLimit
    resetThreshold := u.resetThreshold.getD s.resetThreshold
    settleDelay := u.settleDelay.getD s.settleDelay
    diagnostics := u.diagnostics.getD s.diagnostics
    logRetention := u.logRetention.getD s.logRetention }

def updatedRole (s : Settings) (u : Update) : Except UpdateError RoleChoice :=
  match u.role with
  | none => .ok s.role
  | some name =>
    match RoleChoice.ofName? (lowercase name) with
    | some role => .ok role
    | none => .error (.unknownRole (lowercase name))

def apply (s : Settings) (u : Update) : Except UpdateError Settings :=
  match s.updatedRole u with
  | .error e => .error e
  | .ok role =>
    let updated := { s.overlay u with role }
    match updated.check with
    | some flaw => .error (.flawed flaw)
    | none => .ok updated

namespace Update

/-- The fields that an update can have, in the order in which an array gives them. -/
def fields : List Field :=
  [.pollInterval, .readLimit, .resetThreshold, .settleDelay, .diagnostics, .logRetention, .role]

/-- The update with one value taken in; null leaves the field as it is. A field that no update has
is passed over. -/
def set? (u : Update) (v : Json) : Field → Option Update
  | .pollInterval => (v.toOptional? Json.toWhole?).map fun n => { u with pollInterval := n }
  | .readLimit => (v.toOptional? Json.toWhole?).map fun n => { u with readLimit := n }
  | .resetThreshold => (v.toOptional? Json.toWhole?).map fun n => { u with resetThreshold := n }
  | .settleDelay => (v.toOptional? Json.toWhole?).map fun n => { u with settleDelay := n }
  | .diagnostics => (v.toOptional? Json.toBool?).map fun b => { u with diagnostics := b }
  | .logRetention => (v.toOptional? Json.toWhole?).map fun n => { u with logRetention := n }
  | .role => (v.toOptional? Json.toText?).map fun t => { u with role := t }
  | _ => some u

/-- The update with the members of an object taken in, the last one of a name being the one that
counts. -/
def setMembers? (u : Update) : List (List Char × Json) → Option Update
  | [] => some u
  | (cs, v) :: rest => do
    let key ← Json.unescape cs
    match Field.ofKey? (String.ofList key) with
    | none => setMembers? u rest
    | some f => setMembers? (← u.set? v f) rest

/-- The update with the items of an array taken in, one for each field. -/
def setItems? (u : Update) : List Field → List Json → Option Update
  | [], [] => some u
  | f :: fs, v :: vs => do setItems? (← u.set? v f) fs vs
  | _, _ => none

/-- The update that a JSON value describes. -/
def ofJson? : Json → Option Update
  | .object members => setMembers? {} members
  | .array items => setItems? {} fields items
  | _ => none

end Update

end ClipboardWatchdog.Settings
