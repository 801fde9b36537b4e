import ClipboardWatchdog.Proofs.Settings.Bounds
import ClipboardWatchdog.Proofs.Watchdog.Mode
import ClipboardWatchdog.Proofs.Watchdog.SparedFiles

/-!
# The settings in use, their file and the mode

The settings in use always break no rule. After an update that succeeds, the settings that it
answers are those in use and those that are loaded from the file, and diagnostic mode is as the
update says, if a watchdog is installed (`settings_agree`). Entering and leaving the mode comes
after the file has been written, and leaves it alone because it is no session file.
-/

namespace ClipboardWatchdog

variable {σ α β : Type}

/-! ### The mode after switching it -/

namespace Watchdog

variable (w : Watchdog σ) {s s' : Scene σ Watch}

lemma isRecording_of_enableDiagnostics (h : w.enableDiagnostics.run.run s = (.ok (.ok ()), s')) :
    s'.around.journal.isRecording = true := by
  cases hon : s.around.journal.isRecording with
  | true =>
    rw [w.run_enableDiagnostics_of_recording hon] at h
    obtain ⟨-, rfl⟩ := Prod.mk.inj h
    exact hon
  | false =>
    have hstart := w.mode_startSession hon
    rw [w.run_enableDiagnostics_of_not_recording hon] at h
    rcases hrun : w.startSession.run.run s with ⟨fault | e | ⟨⟩, s₁⟩ <;> rw [hrun] at h hstart
    · cases (Prod.mk.inj h).1
    · cases (Prod.mk.inj h).1
    · obtain ⟨-, hstarted, -⟩ := hstart
      have hjournal := (w.run_announceSession_snd s₁).1
      rw [show w.announceSession.run.run s₁ = _ from h] at hjournal
      exact (congrArg Journal.isRecording hjournal).trans (hstarted rfl)

lemma isRecording_of_disableDiagnostics (h : w.disableDiagnostics.run.run s = (.ok (), s')) :
    s'.around.journal.isRecording = false := by
  cases hon : s.around.journal.isRecording with
  | false =>
    rw [w.run_disableDiagnostics_of_not_recording hon] at h
    obtain ⟨-, rfl⟩ := Prod.mk.inj h
    exact hon
  | true =>
    unfold disableDiagnostics at h
    rw [run_watch_bind, if_pos hon] at h
    obtain ⟨_, s₁, -, h⟩ := run_bind_eq_ok.mp h
    obtain ⟨_, s₂, hdetach, h⟩ := run_bind_eq_ok.mp h
    have hdetached : s₂.around.journal.isRecording = false := by
      rw [run_note] at hdetach
      rw [← (Prod.mk.inj hdetach).2]
      exact Journal.isRecording_detach _
    -- the status and its receiver have no part in what is recorded
    let Q (v : Watch) : Prop := v.journal.isRecording = false
    have hstatus : Keeps (fun s : Scene σ Watch => Q s.around)
        (Work.onStatus fun st => { st with diagnostics := false } : Work σ Unit) :=
      .onWatch fun _ h => h
    have hemit : Keeps (fun s : Scene σ Watch => Q s.around) w.emit := .emit (fun _ _ h => h) w
    have hoff := (hstatus.bind fun _ => hemit) s₂ hdetached
    rwa [h] at hoff

end Watchdog

/-! ### Commands that succeed -/

/-- Diagnostic mode is on. -/
def Desk.isRecording (desk : Desk σ) : Bool := desk.scene.around.journal.isRecording

namespace Command

variable {w : Watchdog σ} {file : Path} {desk desk' : Desk σ}

/-- Two commands in a row end with a value exactly if both do. -/
lemma run_bind_eq_value {a : Command σ α} {f : α → Command σ β} {y : β} :
    (a >>= f).run.run.run desk = (.ok (.ok y), desk') ↔
      ∃ x t, a.run.run.run desk = (.ok (.ok x), t) ∧
        (f x).run.run.run t = (.ok (.ok y), desk') := by
  rw [ExceptT.run_bind, run_bind_eq_ok]
  constructor
  · rintro ⟨_ | x, t, ha, hrest⟩
    · cases hrest
    · exact ⟨x, t, ha, hrest⟩
  · rintro ⟨x, t, ha, hrest⟩
    exact ⟨.ok x, t, ha, hrest⟩

/-- The work of the watchdog takes place in its scene. -/
lemma run_work_eq_value {a : Work σ α} {x : α}
    (h : (work a).run.run.run desk = (.ok (.ok x), desk')) :
    ∃ scene, a.run.run desk.scene = (.ok x, scene) ∧ desk' = { desk with scene } := by
  obtain ⟨hwork, -⟩ := run_work_eq_ok h
  rw [run_work] at h
  obtain ⟨-, rfl⟩ := Prod.mk.inj h
  exact ⟨_, hwork, rfl⟩

/-- Storing settings that went well puts them into their file and to use, and does nothing else. -/
lemma run_store_eq_value {s : Settings}
    (h : (store file s).run.run.run desk = (.ok (.ok ()), desk')) :
    ∃ disk, desk' = { desk.withDisk disk with settings := s } ∧
      disk.content? file = some (.text s.render) := by
  have hcontent := (content?_of_store_eq_ok h).2
  rcases hsave : s.save desk.disk file with ⟨_ | _, disk⟩
  · rw [run_store_of_eq_error hsave] at h
    cases h
  · rw [run_store_of_eq_ok hsave] at h
    obtain ⟨-, rfl⟩ := Prod.mk.inj h
    exact ⟨disk, rfl, hcontent⟩

/-- Switching the mode leaves the settings in use and their file, and the mode is as was asked for
if there is a watchdog. -/
lemma run_switchMode_eq_value {on : Bool} (hfile : ¬file.EndsIn Session.ending)
    (hlog : ∀ path ∈ desk.scene.around.journal.sessionPath, path.EndsIn Session.ending)
    (h : (switchMode w on).run.run.run desk = (.ok (.ok ()), desk')) :
    desk'.settings = desk.settings ∧
      (∀ content, desk.disk.content? file = some content →
        desk'.disk.content? file = some content) ∧
      (desk.installed = true → desk'.isRecording = on) := by
  have hspares : desk.scene.around.Spares file desk.disk := ⟨hlog, fun _ => id⟩
  unfold switchMode at h
  rw [run_get_bind] at h
  split at h
  · split at h
    · next hon =>
      unfold openMode at h
      obtain ⟨entered, t, hwork, hrest⟩ := run_bind_eq_value.mp h
      obtain ⟨scene, henable, rfl⟩ := run_work_eq_value hwork
      cases entered with
      | error e => cases hrest
      | ok _ =>
        obtain ⟨-, rfl⟩ := Prod.mk.inj hrest
        have hkept := w.spares_enableDiagnostics hfile desk.scene hspares
        rw [henable] at hkept
        exact ⟨rfl, hkept.kept, fun _ => hon ▸ w.isRecording_of_enableDiagnostics henable⟩
    · next hoff =>
      obtain ⟨scene, hdisable, rfl⟩ := run_work_eq_value h
      have hkept := w.spares_disableDiagnostics hfile desk.scene hspares
      rw [hdisable] at hkept
      rw [Bool.not_eq_true] at hoff
      exact ⟨rfl, hkept.kept, fun _ => hoff ▸ w.isRecording_of_disableDiagnostics hdisable⟩
  · next hnone =>
    obtain ⟨-, rfl⟩ := Prod.mk.inj h
    exact ⟨rfl, fun _ => id, fun hinstalled => absurd hinstalled hnone⟩

/-- An update that succeeds: what it answers breaks no rule, is in use and stands in the file, and
the mode is the one that it asks for. -/
lemma run_updateSettings_eq_value {u : Settings.Update} {s : Settings}
    (hfile : ¬file.EndsIn Session.ending)
    (hlog : ∀ path ∈ desk.scene.around.journal.sessionPath, path.EndsIn Session.ending)
    (h : (updateSettings w file u).run.run.run desk = (.ok (.ok s), desk')) :
    desk.settings.apply u = .ok s ∧ desk'.settings = s ∧
      desk'.disk.content? file = some (.text s.render) ∧
      (desk.installed = true → desk'.isRecording = u.diagnostics.getD desk.isRecording) := by
  cases happly : desk.settings.apply u with
  | error error =>
    rw [run_updateSettings_of_refused w file happly] at h
    cases h
  | ok s' =>
    rw [run_updateSettings_of_accepted w file happly] at h
    obtain ⟨_, t, hstore, h⟩ := run_bind_eq_value.mp h
    obtain ⟨⟨⟩, t', hswitch, hreturn⟩ := run_bind_eq_value.mp h
    obtain ⟨hs, rfl⟩ := Prod.mk.inj hreturn
    obtain rfl := Except.ok.inj (Except.ok.inj hs)
    obtain ⟨disk, ht, hcontent⟩ := run_store_eq_value hstore
    refine ⟨rfl, ?_⟩
    cases hmode : u.diagnostics with
    | none =>
      rw [hmode] at hswitch
      obtain ⟨-, rfl⟩ := Prod.mk.inj hswitch
      subst ht
      exact ⟨rfl, hcontent, fun _ => rfl⟩
    | some on =>
      rw [hmode] at hswitch
      have hlog' : ∀ path ∈ t.scene.around.journal.sessionPath, path.EndsIn Session.ending := by
        rw [ht]
        exact hlog
      obtain ⟨hsettings, hkept, hrecording⟩ := run_switchMode_eq_value hfile hlog' hswitch
      subst ht
      exact ⟨hsettings, hkept _ hcontent, hrecording⟩

/-! ### Runs -/

/-- What is asked for at a desk: to take the settings from their file, to replace or to update them,
an operation of the watchdog, or to have it installed or not. -/
inductive Request
  | load
  | replace (s : Settings)
  | update (u : Settings.Update)
  | operate (op : Operation)
  | install (installed : Bool)

/-- The whole numbers in what is asked for have room in 64 bits. -/
def Request.Fits : Request → Prop
  | replace s => s.Fits
  | update u => u.Fits
  | load | operate _ | install _ => True

end Command

open Command

namespace Desk

/-- The desk at the time that a clock shows. -/
def withClock (desk : Desk σ) (clock : Clock) : Desk σ :=
  { desk with scene := desk.scene.withClock clock }

/-- The desk after a command, whatever the command came to. -/
def done (desk : Desk σ) (command : Command σ α) : Desk σ := (command.run.run.run desk).2

variable (w : Watchdog σ) (file : Path)

/-- The desk after a request. -/
def serve (desk : Desk σ) : Request → Desk σ
  | .load => desk.done (initSettings file)
  | .replace s => desk.done (replaceSettings file s)
  | .update u => desk.done (updateSettings w file u)
  | .operate op => desk.done (work (w.perform op))
  | .install installed => { desk with installed }

/-- The desk after a row of requests, each at the time that its clock shows. -/
def after (desk : Desk σ) (steps : List (Clock × Request)) : Desk σ :=
  steps.foldl (fun desk step => (desk.withClock step.1).serve w file step.2) desk

/-- The settings in use break no rule and fit into their file, and a session that is attached has a
session file. -/
structure Sound (desk : Desk σ) : Prop where
  valid : desk.settings.isValid = true
  fits : desk.settings.Fits
  log : ∀ path ∈ desk.scene.around.journal.sessionPath, path.EndsIn Session.ending

variable {w file}

/-- What two commands keep, one after the other, they keep in a row. -/
lemma done_bind {P : Desk σ → Prop} {desk : Desk σ} {a : Command σ α} {f : α → Command σ β}
    (ha : P (desk.done a)) (hf : ∀ x t, P t → P (t.done (f x))) : P (desk.done (a >>= f)) := by
  unfold done at ha ⊢
  rw [ExceptT.run_bind, run_run_bind]
  revert ha
  rcases a.run.run.run desk with ⟨fault | e | x, t⟩
  · exact id
  · exact id
  · exact hf x t

namespace Sound

variable {desk : Desk σ} {s : Settings}

/-- The work of the watchdog has no part in the settings in use. -/
lemma done_work (h : desk.Sound) {a : Work σ α}
    (ha : ∀ d, Keeps (fun s : Scene σ Watch => s.around.Spares file d) a) :
    (desk.done (work a)).Sound := by
  have hkept := ha desk.disk desk.scene ⟨h.log, fun _ => id⟩
  unfold done
  rw [run_work]
  exact ⟨h.valid, h.fits, hkept.log⟩

/-- Settings are put to use that have been saved, or those in use stay. -/
lemma done_store (h : desk.Sound) (hvalid : s.isValid = true) (hfits : s.Fits) :
    (desk.done (store file s)).Sound := by
  unfold done
  rcases hsave : s.save desk.disk file with ⟨e | _, disk⟩
  · rw [run_store_of_eq_error hsave]
    exact ⟨h.valid, h.fits, h.log⟩
  · rw [run_store_of_eq_ok hsave]
    exact ⟨hvalid, hfits, h.log⟩

lemma done_replaceSettings (h : desk.Sound) (hfits : s.Fits) :
    (desk.done (replaceSettings file s)).Sound := by
  unfold replaceSettings
  split
  · exact h
  · next hcheck => exact h.done_store (by simp [Settings.isValid, hcheck]) hfits

lemma done_switchMode (h : desk.Sound) (hfile : ¬file.EndsIn Session.ending) (on : Bool) :
    (desk.done (switchMode w on)).Sound := by
  unfold switchMode
  refine done_bind h fun _ t ht => ?_
  split
  · split
    · have hentered : (t.done (work w.enableDiagnostics)).Sound :=
        ht.done_work fun _ => w.spares_enableDiagnostics hfile
      refine done_bind hentered fun entered t ht => ?_
      cases entered with
      | error e => exact ht
      | ok _ => exact ht
    · exact ht.done_work fun _ => w.spares_disableDiagnostics hfile
  · exact ht

lemma done_updateSettings (h : desk.Sound) (hfile : ¬file.EndsIn Session.ending)
    {u : Settings.Update} (hu : u.Fits) : (desk.done (updateSettings w file u)).Sound := by
  cases happly : desk.settings.apply u with
  | error error =>
    unfold done
    rw [run_updateSettings_of_refused w file happly]
    exact h
  | ok s =>
    obtain ⟨_, -, hvalid⟩ := Settings.apply_eq_ok happly
    have hstored : (desk.done (store file s)).Sound :=
      h.done_store hvalid (h.fits.apply hu happly)
    unfold done
    rw [run_updateSettings_of_accepted w file happly]
    refine done_bind hstored fun _ t ht => done_bind ?_ fun _ t ht => ht
    cases u.diagnostics with
    | none => exact ht
    | some on => exact ht.done_switchMode hfile on

lemma serve (h : desk.Sound) (hfile : ¬file.EndsIn Session.ending) {r : Request} (hr : r.Fits) :
    (desk.serve w file r).Sound := by
  cases r with
  | load => exact ⟨Settings.isValid_load _ _, Settings.fits_load _ _, h.log⟩
  | replace s => exact h.done_replaceSettings hr
  | update u => exact h.done_updateSettings hfile hr
  | operate op => exact h.done_work fun _ => w.spares_perform hfile op
  | install installed => exact ⟨h.valid, h.fits, h.log⟩

lemma after (h : desk.Sound) (hfile : ¬file.EndsIn Session.ending)
    {steps : List (Clock × Request)} (hsteps : ∀ step ∈ steps, step.2.Fits) :
    (desk.after w file steps).Sound := by
  induction steps generalizing desk with
  | nil => exact h
  | cons step steps ih =>
    have hclock : (desk.withClock step.1).Sound := ⟨h.valid, h.fits, h.log⟩
    refine ih (hclock.serve hfile (hsteps step List.mem_cons_self)) fun later hlater => ?_
    exact hsteps later (List.mem_cons_of_mem step hlater)

end Sound

/-- A desk at which nothing has been done. -/
def opening (w : Watchdog σ) (host : σ) (disk : Disk) (clock : Clock) (installed : Bool) :
    Desk σ where
  scene := w.opening host disk clock
  installed := installed

end Desk

lemma Config.not_endsIn_settingsFile (configHome : Path) :
    ¬(settingsFile configHome).EndsIn Session.ending := by
  refine Path.not_endsIn_join ?_ _ (by decide)
  constructor <;> decide

/-- At every point of a run, whatever it starts from, the settings in use break no rule. An update
that succeeds there answers the settings that are in use from then on, and they are what is loaded
from the settings file. If a watchdog is installed, its mode is the one that the update asks for,
and as it was if the update asks for none. -/
theorem Desk.settings_agree (w : Watchdog σ) (configHome : Path) (host : σ) (disk : Disk)
    (clock : Clock) (installed : Bool) (steps : List (Clock × Request))
    (hsteps : ∀ step ∈ steps, step.2.Fits) (now : Clock) (u : Settings.Update) (hu : u.Fits) :
    let file := Config.settingsFile configHome
    let desk := (Desk.opening w host disk clock installed).after w file steps
    desk.settings.isValid = true ∧
      ∀ s desk', (updateSettings w file u).run.run.run (desk.withClock now) =
          (.ok (.ok s), desk') →
        desk'.settings = s ∧ Settings.load desk'.disk file = (s, none) ∧
          (desk.installed = true →
            desk'.isRecording = u.diagnostics.getD desk.isRecording) := by
  intro file desk
  have hfile := Config.not_endsIn_settingsFile configHome
  have hopening : (Desk.opening w host disk clock installed).Sound :=
    ⟨Settings.isValid_default, Settings.fits_default,
      by simp [opening, Watchdog.opening, Journal.sessionPath]⟩
  have hsound : desk.Sound := hopening.after hfile hsteps
  refine ⟨hsound.valid, fun s desk' h => ?_⟩
  have hlog : ∀ path ∈ (desk.withClock now).scene.around.journal.sessionPath,
      path.EndsIn Session.ending := hsound.log
  obtain ⟨happly, hsettings, hcontent, hmode⟩ := run_updateSettings_eq_value hfile hlog h
  obtain ⟨_, -, hvalid⟩ := Settings.apply_eq_ok happly
  exact ⟨hsettings, Settings.load_of_content? (hsound.fits.apply hu happly) hvalid hcontent, hmode⟩

theorem Desk.settings_agree_switched :
    let w := ProcessTable.watchdog 5
    let file := Config.settingsFile (.ofString "config")
    let clock : Clock := ⟨⟨1773047107, 0⟩⟩
    let steps : List (Clock × Request) :=
      [(clock, .load), (clock, .update { resetThreshold := some 3 }), (clock, .install true)]
    let desk := (Desk.opening w {} .empty clock false).after w file steps
    let u : Settings.Update := { diagnostics := some true }
    let s : Settings := { resetThreshold := 3, diagnostics := true }
    (∀ step ∈ steps, step.2.Fits) ∧ u.Fits ∧ desk.installed = true ∧
      ∃ desk', (updateSettings w file u).run.run.run (desk.withClock clock) = (.ok (.ok s), desk') ∧
        desk'.settings = s ∧ Settings.load desk'.disk file = (s, none) ∧
          desk'.isRecording = true := by
  intro w file clock steps desk u s
  have hsteps : ∀ step ∈ steps, step.2.Fits := by
    simp only [steps, List.forall_mem_cons, List.not_mem_nil, false_imp_iff, forall_true_iff]
    exact ⟨trivial, by constructor <;> decide, trivial, trivial⟩
  have hu : u.Fits := by constructor <;> decide
  have hvalue : ((updateSettings w file u).run.run.run (desk.withClock clock)).1 = .ok (.ok s) := by
    decide +kernel
  obtain ⟨desk', hrun⟩ : ∃ desk', (updateSettings w file u).run.run.run (desk.withClock clock) =
      (.ok (.ok s), desk') := ⟨_, Prod.ext hvalue rfl⟩
  obtain ⟨-, hagree⟩ := Desk.settings_agree w (.ofString "config") {} .empty clock false steps
    hsteps clock u hu
  obtain ⟨hsettings, hload, hmode⟩ := hagree s desk' hrun
  exact ⟨hsteps, hu, rfl, desk', hrun, hsettings, hload, hmode rfl⟩

end ClipboardWatchdog
