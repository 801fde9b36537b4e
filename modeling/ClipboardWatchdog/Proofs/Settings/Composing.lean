import ClipboardWatchdog.Proofs.Settings.Bounds
import ClipboardWatchdog.Proofs.Text.LetterCase

/-!
# Updates one after the other

An update that follows another one does what the two do at once, where the later value of a field
that both name counts. It is accepted or refused for what the settings are in the end, whatever
they were in between. `Settings.updates_compose` also says which updates are accepted, and what
becomes of the settings then.
-/

namespace ClipboardWatchdog

open Text

/-- The text spells the name of the choice in small and capital letters. -/
def RoleChoice.IsSpelledBy (role : RoleChoice) (text : String) : Prop :=
  text.toList.map Char.toLower = role.name.toList

instance (role : RoleChoice) (text : String) : Decidable (role.IsSpelledBy text) :=
  inferInstanceAs (Decidable (_ = _))

/-- The names of the choices have none but letters that no letter of another alphabet becomes. -/
lemma RoleChoice.ofName?_lowercase_eq_some_iff {role : RoleChoice} {text : String} :
    ofName? (lowercase text) = some role ↔ role.IsSpelledBy text := by
  have hname : ∀ l ∈ role.name.toList, IsOwnSmall l := by
    cases role <;>
      simp only [name, String.reduceToList, List.forall_mem_cons, List.not_mem_nil, false_implies,
        implies_true, and_true] <;> decide
  rw [ofName?_eq_some_iff, lowercase_eq_iff hname, IsSpelledBy]

lemma RoleChoice.ofName?_lowercase_eq_none_iff {text : String} :
    ofName? (lowercase text) = none ↔ ∀ role : RoleChoice, ¬role.IsSpelledBy text := by
  simp only [Option.eq_none_iff_forall_ne_some, Ne, ofName?_lowercase_eq_some_iff]

namespace Settings

variable {s t : Settings} {u : Update} {role : RoleChoice} {e : UpdateError}

/-! ### What an update does -/

lemma updatedRole_eq_ok_iff :
    s.updatedRole u = .ok role ↔
      (u.role = none → role = s.role) ∧ ∀ text ∈ u.role, role.IsSpelledBy text := by
  unfold updatedRole
  cases u.role with
  | none => simp [eq_comm]
  | some text =>
    simp only [Option.mem_some_iff, forall_eq', reduceCtorEq, false_implies, true_and,
      ← RoleChoice.ofName?_lowercase_eq_some_iff]
    cases RoleChoice.ofName? (lowercase text) <;> simp

lemma updatedRole_eq_error_iff :
    s.updatedRole u = .error e ↔
      ∃ text ∈ u.role, (∀ role : RoleChoice, ¬role.IsSpelledBy text) ∧
        e = .unknownRole (lowercase text) := by
  unfold updatedRole
  cases u.role with
  | none => simp
  | some text =>
    simp only [Option.mem_some_iff, exists_eq_left', ← RoleChoice.ofName?_lowercase_eq_none_iff]
    cases RoleChoice.ofName? (lowercase text) <;> simp [eq_comm]

/-- Settings have taken in an update: each field that it names has the value that it gives, and
every other field is as it was. -/
structure Update.TakenIn (u : Update) (s t : Settings) : Prop where
  pollInterval : t.pollInterval = u.pollInterval.getD s.pollInterval
  readLimit : t.readLimit = u.readLimit.getD s.readLimit
  resetThreshold : t.resetThreshold = u.resetThreshold.getD s.resetThreshold
  helper : t.helper = s.helper
  settleDelay : t.settleDelay = u.settleDelay.getD s.settleDelay
  diagnostics : t.diagnostics = u.diagnostics.getD s.diagnostics
  logDirectory : t.logDirectory = s.logDirectory
  logBase : t.logBase = s.logBase
  logRetention : t.logRetention = u.logRetention.getD s.logRetention
  roleKept : u.role = none → t.role = s.role
  roleNamed : ∀ text ∈ u.role, t.role.IsSpelledBy text

lemma takenIn_iff :
    u.TakenIn s t ↔ ∃ role, s.updatedRole u = .ok role ∧ t = { s.overlay u with role } := by
  constructor
  · intro h
    refine ⟨t.role, updatedRole_eq_ok_iff.mpr ⟨h.roleKept, h.roleNamed⟩, ?_⟩
    obtain ⟨h₁, h₂, h₃, h₄, h₅, h₆, h₇, h₈, h₉, -, -⟩ := h
    cases t
    simp_all [overlay]
  · rintro ⟨role, hrole, rfl⟩
    obtain ⟨hkept, hnamed⟩ := updatedRole_eq_ok_iff.mp hrole
    exact ⟨rfl, rfl, rfl, rfl, rfl, rfl, rfl, rfl, rfl, hkept, hnamed⟩

lemma apply_eq_ok_iff_takenIn : s.apply u = .ok t ↔ u.TakenIn s t ∧ t.isValid = true := by
  rw [apply_eq_ok_iff, takenIn_iff]
  simp only [← and_assoc, exists_and_right]

lemma apply_eq_error_iff :
    s.apply u = .error e ↔
      s.updatedRole u = .error e ∨
        (∃ role, s.updatedRole u = .ok role) ∧
          ∃ flaw, (s.overlay u).check = some flaw ∧ e = .flawed flaw := by
  have hcheck (role : RoleChoice) : { s.overlay u with role }.check = (s.overlay u).check := rfl
  unfold apply
  cases s.updatedRole u with
  | error e => simp
  | ok role =>
    simp only [hcheck]
    cases (s.overlay u).check <;> simp [eq_comm]

/-! ### Two updates -/

/-- The update that names what either of two updates names. The later one's values count. -/
def Update.followedBy (u v : Update) : Update where
  pollInterval := v.pollInterval.or u.pollInterval
  readLimit := v.readLimit.or u.readLimit
  resetThreshold := v.resetThreshold.or u.resetThreshold
  settleDelay := v.settleDelay.or u.settleDelay
  diagnostics := v.diagnostics.or u.diagnostics
  logRetention := v.logRetention.or u.logRetention
  role := v.role.or u.role

lemma overlay_followedBy (s : Settings) (u v : Update) :
    s.overlay (u.followedBy v) = (s.overlay u).overlay v := by
  simp [overlay, Update.followedBy, Option.getD_or]

lemma updatedRole_followedBy (h : s.updatedRole u = .ok role) (v : Update) :
    s.updatedRole (u.followedBy v) = { s.overlay u with role }.updatedRole v := by
  unfold updatedRole Update.followedBy
  cases v.role with
  | none => exact h
  | some text => rfl

/-- An update that follows another one, which was accepted, gives what the two give at once, be it
settings or the error. An update is accepted exactly if the settings that have taken it in break no
rule, and refused exactly if its role is spelled in no way or the settings break one. -/
theorem updates_compose (s : Settings) (u : Update) :
    (∀ t, s.apply u = .ok t → ∀ v, t.apply v = s.apply (u.followedBy v)) ∧
    (∀ t, s.apply u = .ok t ↔ u.TakenIn s t ∧ t.isValid = true) ∧
    ((∃ e, s.apply u = .error e) ↔
      (∃ text ∈ u.role, ∀ role : RoleChoice, ¬role.IsSpelledBy text) ∨
        (s.overlay u).isValid = false) := by
  refine ⟨fun t ht v => ?_, fun t => apply_eq_ok_iff_takenIn, ?_⟩
  · obtain ⟨role, hrole, rfl, -⟩ := apply_eq_ok_iff.mp ht
    unfold apply
    rw [updatedRole_followedBy hrole, overlay_followedBy]
    rfl
  · constructor
    · rintro ⟨e, he⟩
      rcases apply_eq_error_iff.mp he with hrole | ⟨-, flaw, hflaw, -⟩
      · obtain ⟨text, htext, hunknown, -⟩ := updatedRole_eq_error_iff.mp hrole
        exact .inl ⟨text, htext, hunknown⟩
      · exact .inr (by simp [isValid, hflaw])
    · cases hrole : s.updatedRole u with
      | error e => exact fun _ => ⟨e, apply_eq_error_iff.mpr (.inl hrole)⟩
      | ok role =>
        rintro (⟨text, htext, hunknown⟩ | hinvalid)
        · exact absurd ((updatedRole_eq_ok_iff.mp hrole).2 text htext) (hunknown role)
        · obtain ⟨flaw, hflaw⟩ : ∃ flaw, (s.overlay u).check = some flaw := by
            simpa [isValid, Option.isSome_iff_exists] using hinvalid
          exact ⟨_, apply_eq_error_iff.mpr (.inr ⟨⟨role, hrole⟩, flaw, hflaw, rfl⟩)⟩

theorem updates_compose_refused :
    let s : Settings := {}
    let u : Update := { resetThreshold := some 3, role := some "ReMote" }
    let v : Update := { logRetention := some 0, role := some "Server" }
    let t : Settings := { resetThreshold := 3, role := .onControlled }
    s.apply u = .ok t ∧ t.apply v = s.apply (u.followedBy v) ∧
      t.apply v = .error (.unknownRole "server") := by
  intro s u v t
  have haccepted : s.apply u = .ok t := by decide +kernel
  exact ⟨haccepted, (updates_compose s u).1 t haccepted v, by decide +kernel⟩

end Settings

end ClipboardWatchdog
