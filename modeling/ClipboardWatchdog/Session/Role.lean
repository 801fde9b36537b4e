/-!
# Roles

A remote desktop session has two sides. The role says on which of them the watchdog runs; it can
be set, or left to be detected.
-/

namespace ClipboardWatchdog

/-- The side of the remote session: the machine that controls, or the one that is controlled. -/
inductive Role
  | onController
  | onControlled
  deriving DecidableEq, Repr, Inhabited

def Role.label : Role → String
  | onController => "LOCAL"
  | onControlled => "REMOTE"

/-- Where there is no way to tell, the watchdog runs on the machine that controls. -/
def Role.detected : Role := .onController

/-- What the settings say about the role. -/
inductive RoleChoice
  | auto
  | onController
  | onControlled
  deriving DecidableEq, Repr, Inhabited

namespace RoleChoice

/-- The role that a choice comes to. -/
def resolve : RoleChoice → Role
  | auto => .detected
  | onController => .onController
  | onControlled => .onControlled

def name : RoleChoice → String
  | auto => "auto"
  | onController => "local"
  | onControlled => "remote"

def ofName? (s : String) : Option RoleChoice :=
  if s = "auto" then some auto
  else if s = "local" then some onController
  else if s = "remote" then some onControlled
  else none

/-- A name names exactly the choice that has it. -/
theorem ofName?_eq_some_iff {s : String} {r : RoleChoice} : ofName? s = some r ↔ s = r.name := by
  constructor
  · unfold ofName?
    split
    · rintro ⟨⟩
      assumption
    · split
      · rintro ⟨⟩
        assumption
      · split
        · rintro ⟨⟩
          assumption
        · simp
  · rintro rfl
    cases r <;> decide

end RoleChoice

end ClipboardWatchdog
