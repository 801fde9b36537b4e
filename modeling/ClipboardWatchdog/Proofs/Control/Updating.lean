import ClipboardWatchdog.Control
import ClipboardWatchdog.Proofs.Session.Opening
import ClipboardWatchdog.Proofs.Watchdog.Sessions

/-!
# Updates that fail

An update of the settings fails because it is refused, because the settings cannot be saved, or
because diagnostic mode cannot be entered. The first happens before anything is done. In the second
the settings in use stay, and their file too unless the disk is full. By the third, the settings
have been saved and put to use, and that is not taken back.
-/

namespace ClipboardWatchdog

variable {σ α β : Type}

/-! ### Saving -/

namespace Settings

/-- What comes of saving settings: they stand in the file, or nothing does because the disk is full;
or what is written in the file is as it was. -/
inductive Saved (s : Settings) (d : Disk) (p : Path) : Except DiskError Unit × Disk → Prop
  | whole {d' : Disk} (h : d'.content? p = some (.text s.render)) : Saved s d p (.ok (), d')
  | nothing {d' : Disk} (h : d'.content? p = some (.text "")) :
    Saved s d p (.error .fileTooLarge, d')
  | refused {e : DiskError} {d' : Disk} (he : e ≠ .fileTooLarge)
    (h : d'.content? p = d.content? p) : Saved s d p (.error e, d')

variable {s : Settings} {d d' : Disk} {p : Path}

/-- Writing the file of settings, after the directories above it have been made. -/
lemma saved_of_wrote (hgrown : d.Grown d') {result : Except DiskError Unit × Disk}
    (h : d'.Wrote p s.render result) : Saved s d p result := by
  cases h with
  | whole h => exact .whole h
  | nothing h => exact .nothing h
  | refused he h => exact .refused he (h.trans (hgrown.content?_eq_none h).symm)

lemma saved_save (s : Settings) (d : Disk) (p : Path) : Saved s d p (s.save d p) := by
  unfold save
  split
  · exact saved_of_wrote (.refl d) (d.wrote_write p s.render)
  · next parent hparent =>
    split
    · next e d' hensure =>
      obtain ⟨he, hsame⟩ := Disk.content?_of_ensureDirectory_eq_error hparent hensure
      exact .refused he hsame
    · next d' hensure =>
      have hgrown := d.grown_of_ensureDirectory parent
      rw [hensure] at hgrown
      exact saved_of_wrote hgrown (d'.wrote_write p s.render)

end Settings

/-! ### Failing to enter diagnostic mode -/

namespace Session

/-- A session that cannot be started leaves no more than its directory behind. -/
lemma grown_of_create_eq_error {d d' : Disk} {clock : Clock} {origin : Origin} {dir : Path}
    {base : String} {role : Role} {helper : String} {e : SessionError}
    (h : create d clock origin dir base role helper = (.error e, d')) : d.Grown d' := by
  rw [disk_of_create_eq_error h]
  exact d.grown_of_ensureDirectory dir

end Session

namespace Watchdog

variable (w : Watchdog σ) {s s' : Scene σ Watch}

lemma grown_of_openSession_eq_error {e : DiskError} (hoff : s.around.journal.isRecording = false)
    (h : w.openSession.run.run s = (.ok (.error e), s')) :
    s.around.journal.disk.Grown s'.around.journal.disk := by
  rw [w.run_openSession_of_not_recording hoff] at h
  dsimp only at h
  split at h
  · next hmade =>
    cases h
    exact Session.grown_of_create_eq_error (Prod.ext hmade rfl)
  · cases h
  · cases h

/-- Once the file of a session is there, entering the mode does not end in an error. -/
lemma openSession_of_startSession_eq_error {e : DiskError}
    (h : w.startSession.run.run s = (.ok (.error e), s')) :
    w.openSession.run.run s = (.ok (.error e), s') := by
  unfold startSession at h
  obtain ⟨made, t, hopen, hrest⟩ := run_bind_eq_ok.mp h
  cases made with
  | error e' =>
    cases hrest
    exact hopen
  | ok _ =>
    obtain ⟨_, _, -, hrest⟩ := run_bind_eq_ok.mp hrest
    obtain ⟨_, _, -, hrest⟩ := run_bind_eq_ok.mp hrest
    cases hrest

/-- Where diagnostic mode cannot be entered for the disk's sake, nothing is written. -/
lemma grown_of_enableDiagnostics_eq_error {e : DiskError}
    (h : w.enableDiagnostics.run.run s = (.ok (.error e), s')) :
    s.around.journal.disk.Grown s'.around.journal.disk := by
  cases hon : s.around.journal.isRecording with
  | true =>
    rw [w.run_enableDiagnostics_of_recording hon] at h
    cases h
  | false =>
    rw [w.run_enableDiagnostics_of_not_recording hon] at h
    split at h
    · cases h
    · next hstart =>
      cases h
      exact w.grown_of_openSession_eq_error hon (w.openSession_of_startSession_eq_error hstart)
    · unfold announceSession at h
      obtain ⟨_, _, -, hrest⟩ := run_bind_eq_ok.mp h
      obtain ⟨_, _, -, hrest⟩ := run_bind_eq_ok.mp hrest
      cases hrest

end Watchdog

/-! ### Commands -/

namespace Desk

/-- The disk under a desk. -/
def disk (desk : Desk σ) : Disk := desk.scene.around.journal.disk

/-- The desk with another disk. -/
def withDisk (desk : Desk σ) (disk : Disk) : Desk σ :=
  let around := desk.scene.around
  let journal := { around.journal with disk }
  { desk with scene := { desk.scene with around := { around with journal } } }

end Desk

namespace Command

variable {desk desk' : Desk σ} {e : CommandError}

/-- Two commands in a row end in an error exactly if the first does, or the second after it. -/
lemma run_bind_eq_error {a : Command σ α} {f : α → Command σ β} :
    (a >>= f).run.run.run desk = (.ok (.error e), desk') ↔
      a.run.run.run desk = (.ok (.error e), desk') ∨
        ∃ x t, a.run.run.run desk = (.ok (.ok x), t) ∧
          (f x).run.run.run t = (.ok (.error e), desk') := by
  rw [ExceptT.run_bind, run_bind_eq_ok]
  constructor
  · rintro ⟨r, t, ha, hrest⟩
    cases r with
    | error e' =>
      cases hrest
      exact .inl ha
    | ok x => exact .inr ⟨x, t, ha, hrest⟩
  · rintro (ha | ⟨x, t, ha, hrest⟩)
    · exact ⟨.error e, desk', ha, rfl⟩
    · exact ⟨.ok x, t, ha, hrest⟩

/-- A command that gives a value goes on with it. -/
lemma run_bind_of_ok {a : Command σ α} {f : α → Command σ β} {x : α} {t : Desk σ}
    (h : a.run.run.run desk = (.ok (.ok x), t)) :
    (a >>= f).run.run.run desk = (f x).run.run.run t := by
  rw [ExceptT.run_bind, run_run_bind, h]

lemma run_get_bind (f : Desk σ → Command σ β) :
    (get >>= f).run.run.run desk = (f desk).run.run.run desk :=
  run_bind_of_ok rfl

/-- What comes of the work of the watchdog. -/
lemma run_work (a : Work σ α) (desk : Desk σ) :
    (work a).run.run.run desk =
      ((a.run.run desk.scene).1.map .ok, { desk with scene := (a.run.run desk.scene).2 }) := by
  unfold work
  rw [run_get_bind]
  rcases a.run.run desk.scene with ⟨_ | _, scene⟩ <;> rfl

/-- The work of the watchdog gives a value or a fault, and never the error of a command. -/
lemma run_work_ne_error (a : Work σ α) :
    (work a).run.run.run desk ≠ (.ok (.error e), desk') := by
  rw [run_work]
  cases (a.run.run desk.scene).1 with
  | error fault => rintro ⟨⟩
  | ok x => rintro ⟨⟩

lemma run_work_eq_ok {a : Work σ α} {x : α} (h : (work a).run.run.run desk = (.ok (.ok x), desk')) :
    a.run.run desk.scene = (.ok x, desk'.scene) ∧ desk'.settings = desk.settings := by
  rw [run_work] at h
  obtain ⟨hresult, rfl⟩ := Prod.mk.inj h
  cases ha : (a.run.run desk.scene).1 with
  | error fault =>
    rw [ha] at hresult
    cases hresult
  | ok y =>
    rw [ha] at hresult
    cases hresult
    exact ⟨Prod.ext ha rfl, rfl⟩

lemma run_look_bind (f : Watch → Command σ β) :
    (work Work.watch >>= f).run.run.run desk = (f desk.scene.around).run.run.run desk :=
  run_bind_of_ok rfl

/-- Saving settings puts them to use if all went well, and changes the disk alone if not. -/
lemma run_store_of_eq_ok {file : Path} {s : Settings} {disk : Disk}
    (h : s.save desk.disk file = (.ok (), disk)) :
    (store file s : Command σ Unit).run.run.run desk =
      (.ok (.ok ()), { desk.withDisk disk with settings := s }) := by
  unfold store
  rw [run_look_bind, show s.save desk.scene.around.journal.disk file = _ from h]
  rfl

lemma run_store_of_eq_error {file : Path} {s : Settings} {error : DiskError} {disk : Disk}
    (h : s.save desk.disk file = (.error error, disk)) :
    (store file s : Command σ Unit).run.run.run desk =
      (.ok (.error (.notSaved error)), desk.withDisk disk) := by
  unfold store
  rw [run_look_bind, show s.save desk.scene.around.journal.disk file = _ from h]
  rfl

/-- Diagnostic mode that cannot be switched could not be entered, and nothing was written. -/
lemma grown_of_switchMode_eq_error {w : Watchdog σ} {on : Bool}
    (h : (switchMode w on).run.run.run desk = (.ok (.error e), desk')) :
    (∃ error, e = .noSession error) ∧ desk'.settings = desk.settings ∧
      desk.disk.Grown desk'.disk := by
  unfold switchMode at h
  rw [run_get_bind] at h
  split at h
  · split at h
    · unfold openMode at h
      rcases run_bind_eq_error.mp h with hwork | ⟨result, t, hwork, hrest⟩
      · exact absurd hwork (run_work_ne_error _)
      · obtain ⟨henable, hsettings⟩ := run_work_eq_ok hwork
        cases result with
        | error error =>
          cases hrest
          exact ⟨⟨error, rfl⟩, hsettings, w.grown_of_enableDiagnostics_eq_error henable⟩
        | ok _ => cases hrest
    · exact absurd h (run_work_ne_error _)
  · cases h

/-- How an update fails: it was refused before anything was done; or the settings were not saved and
are not in use, and their file is as it was or, on a full disk, empty; or the settings were saved
and put to use, and diagnostic mode could not be entered. -/
inductive FailedUpdate (file : Path) (u : Settings.Update) (desk : Desk σ) :
    CommandError → Desk σ → Prop
  | refused (error : Settings.UpdateError) (h : desk.settings.apply u = .error error) :
    FailedUpdate file u desk (.refused error) desk
  | notSaved (error : DiskError) (desk' : Desk σ) (he : error ≠ .fileTooLarge)
    (hsettings : desk'.settings = desk.settings)
    (hcontent : desk'.disk.content? file = desk.disk.content? file) :
    FailedUpdate file u desk (.notSaved error) desk'
  | cut (desk' : Desk σ) (hsettings : desk'.settings = desk.settings)
    (hcontent : desk'.disk.content? file = some (.text "")) :
    FailedUpdate file u desk (.notSaved .fileTooLarge) desk'
  | noSession (error : DiskError) (s : Settings) (desk' : Desk σ)
    (h : desk.settings.apply u = .ok s) (hsettings : desk'.settings = s)
    (hcontent : desk'.disk.content? file = some (.text s.render)) :
    FailedUpdate file u desk (.noSession error) desk'

lemma failed_of_store_eq_error {file : Path} {s : Settings} (u : Settings.Update)
    (h : (store file s).run.run.run desk = (.ok (.error e), desk')) :
    FailedUpdate file u desk e desk' := by
  have hsaved := s.saved_save desk.disk file
  rcases hsave : s.save desk.disk file with ⟨error | _, disk⟩
  · rw [hsave] at hsaved
    rw [run_store_of_eq_error hsave] at h
    cases h
    cases hsaved with
    | nothing hcontent => exact .cut _ rfl hcontent
    | refused he hcontent => exact .notSaved _ _ he rfl hcontent
  · rw [run_store_of_eq_ok hsave] at h
    cases h

lemma content?_of_store_eq_ok {file : Path} {s : Settings}
    (h : (store file s).run.run.run desk = (.ok (.ok ()), desk')) :
    desk'.settings = s ∧ desk'.disk.content? file = some (.text s.render) := by
  have hsaved := s.saved_save desk.disk file
  rcases hsave : s.save desk.disk file with ⟨_ | _, disk⟩
  · rw [run_store_of_eq_error hsave] at h
    cases h
  · rw [hsave] at hsaved
    rw [run_store_of_eq_ok hsave] at h
    cases h
    cases hsaved with
    | whole hcontent => exact ⟨rfl, hcontent⟩

lemma run_updateSettings_of_refused (w : Watchdog σ) (file : Path) {u : Settings.Update}
    {error : Settings.UpdateError} (h : desk.settings.apply u = .error error) :
    (updateSettings w file u).run.run.run desk = (.ok (.error (.refused error)), desk) := by
  unfold updateSettings
  rw [run_get_bind, h]
  rfl

/-- What an update does once it is accepted. -/
lemma run_updateSettings_of_accepted (w : Watchdog σ) (file : Path) {u : Settings.Update}
    {s : Settings} (h : desk.settings.apply u = .ok s) :
    (updateSettings w file u).run.run.run desk =
      (do
        store file s
        u.diagnostics.elim (pure ()) (switchMode w)
        return s : Command σ Settings).run.run.run desk := by
  unfold updateSettings
  rw [run_get_bind, h]
  cases u.diagnostics <;> rfl

lemma failed_of_updateSettings_eq_error {w : Watchdog σ} {file : Path} {u : Settings.Update}
    (h : (updateSettings w file u).run.run.run desk = (.ok (.error e), desk')) :
    FailedUpdate file u desk e desk' := by
  cases happly : desk.settings.apply u with
  | error error =>
    rw [run_updateSettings_of_refused w file happly] at h
    cases h
    exact .refused _ happly
  | ok s =>
    rw [run_updateSettings_of_accepted w file happly] at h
    rcases run_bind_eq_error.mp h with hstore | ⟨_, t, hstore, hrest⟩
    · exact failed_of_store_eq_error u hstore
    · obtain ⟨hsettings, hcontent⟩ := content?_of_store_eq_ok hstore
      cases hdiagnostics : u.diagnostics with
      | none =>
        rw [hdiagnostics] at hrest
        cases hrest
      | some on =>
        rw [hdiagnostics] at hrest
        rcases run_bind_eq_error.mp hrest with hswitch | ⟨_, _, -, hreturn⟩
        · obtain ⟨⟨error, rfl⟩, hkept, hgrown⟩ := grown_of_switchMode_eq_error hswitch
          exact .noSession error s desk' happly (hkept.trans hsettings) (hgrown.content? hcontent)
        · cases hreturn

/-- An update fails in one of three ways. It leaves the settings in use and what is written in their
file as they were, except in two cases, each of which can go unnoticed only if nothing was to be
changed: the disk took nothing of the file, or diagnostic mode could not be entered. -/
theorem updateSettings_unchanged_iff (w : Watchdog σ) (file : Path) (u : Settings.Update)
    (h : (updateSettings w file u).run.run.run desk = (.ok (.error e), desk')) :
    ((∃ error, e = .refused error) ∨ (∃ error, e = .notSaved error) ∨
        ∃ error, e = .noSession error) ∧
      (desk'.settings = desk.settings ∧ desk'.disk.content? file = desk.disk.content? file ↔
        (e = .notSaved .fileTooLarge → desk.disk.content? file = some (.text "")) ∧
          ∀ error, e = .noSession error →
            desk.settings.apply u = .ok desk.settings ∧
              desk.disk.content? file = some (.text desk.settings.render)) := by
  cases failed_of_updateSettings_eq_error h with
  | refused error happly => exact ⟨.inl ⟨error, rfl⟩, by simp⟩
  | notSaved error _ he hsettings hcontent =>
    refine ⟨.inr (.inl ⟨error, rfl⟩), ?_⟩
    simp [hsettings, hcontent, he]
  | cut _ hsettings hcontent =>
    refine ⟨.inr (.inl ⟨_, rfl⟩), ?_⟩
    simp [hsettings, hcontent, eq_comm]
  | noSession error s _ happly hsettings hcontent =>
    refine ⟨.inr (.inr ⟨error, rfl⟩), ?_⟩
    rw [hsettings, hcontent, happly]
    constructor
    · rintro ⟨rfl, hsame⟩
      exact ⟨by simp, fun _ _ => ⟨rfl, hsame.symm⟩⟩
    · rintro ⟨-, hno⟩
      obtain ⟨hs, hsame⟩ := hno error rfl
      obtain rfl := Except.ok.inj hs
      exact ⟨rfl, hsame.symm⟩

/-- A watchdog whose session files would stand in a directory that nobody makes. -/
def strayBase : Watchdog ProcessTable :=
  let w := ProcessTable.watchdog 5
  { w with config := { w.config with logBase := "rdpclip/diag" } }

/-- A desk with that watchdog installed, on an empty disk. -/
def strayDesk : Desk ProcessTable where
  scene := strayBase.opening {} .empty ⟨⟨1773047107, 0⟩⟩
  installed := true

theorem updateSettings_unchanged_iff_stray :
    let file := Config.settingsFile (.ofString "config")
    let u : Settings.Update := { diagnostics := some true }
    ∃ e desk', (updateSettings strayBase file u).run.run.run strayDesk = (.ok (.error e), desk') ∧
      ((∃ error, e = .refused error) ∨ (∃ error, e = .notSaved error) ∨
        ∃ error, e = .noSession error) ∧
      (desk'.settings = strayDesk.settings ∧
          desk'.disk.content? file = strayDesk.disk.content? file ↔
        (e = .notSaved .fileTooLarge → strayDesk.disk.content? file = some (.text "")) ∧
          ∀ error, e = .noSession error →
            strayDesk.settings.apply u = .ok strayDesk.settings ∧
              strayDesk.disk.content? file = some (.text strayDesk.settings.render)) :=
  have hresult : ((updateSettings strayBase (Config.settingsFile (.ofString "config"))
      { diagnostics := some true }).run.run.run strayDesk).1 =
        .ok (.error (.noSession .notFound)) := by
    decide +kernel
  have hrun := Prod.ext hresult rfl
  ⟨_, _, hrun, updateSettings_unchanged_iff strayBase _ _ hrun⟩

/-- Diagnostic mode cannot be entered, and yet the settings say that it is on, and so does their
file, which was not there before. -/
theorem updateSettings_kept_of_noSession :
    let file := Config.settingsFile (.ofString "config")
    let r := (updateSettings strayBase file { diagnostics := some true }).run.run.run strayDesk
    r.1 = .ok (.error (.noSession .notFound)) ∧
      strayDesk.settings.diagnostics = false ∧ r.2.settings.diagnostics = true ∧
        (strayDesk.disk.content? file).isNone = true ∧ (r.2.disk.content? file).isSome = true := by
  decide +kernel

end Command

end ClipboardWatchdog
