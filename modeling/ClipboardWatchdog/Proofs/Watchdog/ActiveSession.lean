import ClipboardWatchdog.Proofs.Session.Sweeping
import ClipboardWatchdog.Proofs.Watchdog.Sessions

/-!
# The file of the active session

Entering diagnostic mode makes the file of a session and then removes old files.
`active_session_kept_iff` says when the file that was just made survives this. What the watchdog
does besides leaves every file where it is: it only writes to the file of the session that is
attached.
-/

namespace ClipboardWatchdog

variable {σ : Type}

/-! ### Writing to a session -/

namespace Session

lemma path_recordAt (s : Session) (d : Disk) (now : Moment) (category : Option Category)
    (message : String) : (s.recordAt d now category message).1.path = s.path := by
  unfold recordAt
  split
  · split <;> rfl
  · rfl

lemma alike_recordAt (s : Session) (d : Disk) (now : Moment) (category : Option Category)
    (message : String) : d.Alike (s.recordAt d now category message).2 := by
  have halike := Disk.alike_append d s.path (block [line now category message])
  unfold recordAt
  split
  · split
    · next heq =>
      rw [heq] at halike
      exact halike
    · next heq =>
      rw [heq] at halike
      exact halike
  · exact .refl d

lemma path_addSection (s : Session) (d : Disk) (title : String) :
    (s.addSection d title).1.path = s.path := by
  unfold addSection
  split <;> rfl

lemma alike_addSection (s : Session) (d : Disk) (title : String) :
    d.Alike (s.addSection d title).2 := by
  unfold addSection
  split
  · exact Disk.alike_append _ _ _
  · exact .refl d

end Session

namespace Journal

/-- A record changes nothing but what is written, and the session stays attached. -/
lemma record_snd (j : Journal) (category : Option Category) (message : String) :
    (j.record category message).2.sessionPath = j.sessionPath ∧
      j.disk.Alike (j.record category message).2.disk := by
  unfold record sessionPath
  cases hs : j.session with
  | none => exact ⟨by simp, .refl _⟩
  | some s =>
    cases hread : j.clock.read with
    | error fault =>
      simp only [Session.record, hread, bind, Except.bind]
      exact ⟨trivial, .refl _⟩
    | ok now =>
      simp only [Session.record, hread, bind, Except.bind, pure, Except.pure, Option.map_some,
        Session.path_recordAt]
      exact ⟨trivial, Session.alike_recordAt _ _ _ _ _⟩

/-- So does the title of a section. -/
lemma addSection_sessionPath (j : Journal) (title : String) :
    (j.addSection title).sessionPath = j.sessionPath ∧ j.disk.Alike (j.addSection title).disk := by
  unfold addSection sessionPath
  cases hs : j.session with
  | none => exact ⟨by simp [hs], .refl _⟩
  | some s =>
    simp only [Option.map_some, Session.path_addSection]
    exact ⟨trivial, Session.alike_addSection _ _ _⟩

end Journal

/-- The session of a path is attached, and the disk differs from a given one at most in what is
written in its files. -/
def Watch.Records (path : Path) (d : Disk) (w : Watch) : Prop :=
  w.journal.sessionPath = some path ∧ d.Alike w.journal.disk

lemma Watchdog.steady_records (w : Watchdog σ) (path : Path) (d : Disk) :
    w.Steady (Watch.Records path d) where
  monitor _ _ h := h
  status _ _ _ h := h
  deliveries _ _ h := h
  record v category message _ h := by
    obtain ⟨hpath, halike⟩ := v.journal.record_snd (some category) message
    exact ⟨hpath.trans h.1, h.2.trans halike⟩
  addSection v title h := by
    obtain ⟨hpath, halike⟩ := v.journal.addSection_sessionPath title
    exact ⟨hpath.trans h.1, h.2.trans halike⟩

namespace Watchdog

variable (w : Watchdog σ)

/-- Removing old files leaves the session attached, and of the disk what the sweep leaves. -/
lemma records_removeOld {s : Scene σ Watch} {path : Path}
    (h : s.around.journal.sessionPath = some path) :
    (w.removeOld.run.run s).2.around.Records path
      (Session.sweep s.around.journal.disk w.config.logDirectory w.config.logBase
        w.config.logRetention).2 := by
  unfold removeOld
  rw [run_note]
  generalize hsweep : Session.sweep s.around.journal.disk w.config.logDirectory w.config.logBase
    w.config.logRetention = swept
  dsimp only
  unfold Journal.noteRemoved
  split
  · obtain ⟨hpath, halike⟩ := Journal.record_snd { s.around.journal with disk := swept.2 }
      (some .diag) ("Removed " ++ Text.decimal swept.1 ++ " old session file(s)")
    exact ⟨hpath.trans h, halike⟩
  · exact ⟨h, .refl _⟩

/-- A session that was started is the one whose file was made, and after the old files were removed
nothing but text was added. -/
lemma startSession_eq_ok {s s' : Scene σ Watch} (h : s.around.journal.isRecording = false)
    (hstart : w.startSession.run.run s = (.ok (.ok ()), s')) :
    let c := w.config
    let j := s.around.journal
    ∃ session made, Session.create j.disk j.clock c.origin c.logDirectory c.logBase c.role
        c.helper = (.ok session, made) ∧
      s'.around.Records session.path
        (Session.sweep made c.logDirectory c.logBase c.logRetention).2 := by
  unfold startSession at hstart
  obtain ⟨opened, s₁, hopen, hrest⟩ := run_bind_eq_ok.mp hstart
  rw [run_openSession_of_not_recording w h] at hopen
  dsimp only at hopen ⊢
  rcases hcreate : Session.create s.around.journal.disk s.around.journal.clock w.config.origin
    w.config.logDirectory w.config.logBase w.config.role w.config.helper with ⟨result, made⟩
  rw [hcreate] at hopen
  rcases result with (e | fault) | session
  · obtain ⟨hopened, -⟩ := Prod.mk.inj hopen
    cases hopened
    cases (Prod.mk.inj hrest).1
  · cases (Prod.mk.inj hopen).1
  · obtain ⟨hopened, hattached⟩ := Prod.mk.inj hopen
    cases hopened
    refine ⟨session, made, rfl, ?_⟩
    obtain ⟨_, s₂, hremove, hrest⟩ := run_bind_eq_ok.mp hrest
    obtain ⟨_, s₃, hstate, hdone⟩ := run_bind_eq_ok.mp hrest
    obtain ⟨-, rfl⟩ := Prod.mk.inj hdone
    have hpath : s₁.around.journal.sessionPath = some session.path := by
      rw [← hattached]
      rfl
    have hdisk : s₁.around.journal.disk = made := by rw [← hattached]
    -- the session is attached, then the old files go, and what follows only writes
    have hswept := w.records_removeOld hpath
    rw [hremove, hdisk] at hswept
    have hwritten := (w.steady_records _ _).keeps_recordState s₂ hswept
    rwa [hstate] at hwritten

/-- The same of entering the mode, which does no more than tell of it then. -/
lemma enableDiagnostics_eq_ok {s s' : Scene σ Watch} (h : s.around.journal.isRecording = false)
    (henable : w.enableDiagnostics.run.run s = (.ok (.ok ()), s')) :
    let c := w.config
    let j := s.around.journal
    ∃ session made, Session.create j.disk j.clock c.origin c.logDirectory c.logBase c.role
        c.helper = (.ok session, made) ∧
      s'.around.Records session.path
        (Session.sweep made c.logDirectory c.logBase c.logRetention).2 := by
  rw [run_enableDiagnostics_of_not_recording w h] at henable
  rcases hstart : w.startSession.run.run s with ⟨fault | e | ⟨⟩, s₁⟩
  · rw [hstart] at henable
    cases (Prod.mk.inj henable).1
  · rw [hstart] at henable
    cases (Prod.mk.inj henable).1
  · rw [hstart] at henable
    dsimp only at henable
    obtain ⟨session, made, hcreate, hrecords⟩ := w.startSession_eq_ok h hstart
    obtain ⟨hjournal, -⟩ := w.run_announceSession_snd s₁
    rw [henable] at hjournal
    refine ⟨session, made, hcreate, ?_⟩
    unfold Watch.Records at hrecords ⊢
    rwa [hjournal]

/-- What becomes of the file that entering the mode makes, `k` seconds ahead of the clock. -/
lemma isFile_enableDiagnostics_iff (hbase : '/' ∉ w.config.logBase.toList)
    (hkeep : 1 ≤ w.config.logRetention) {s s' : Scene σ Watch}
    (h : s.around.journal.isRecording = false)
    (henable : w.enableDiagnostics.run.run s = (.ok (.ok ()), s')) :
    let c := w.config
    let j := s.around.journal
    ∃ m, ∃ k ≤ Session.maxRetries, j.clock.read = .ok m ∧
      s'.around.journal.sessionPath = some (Session.candidate c.logDirectory c.logBase m k) ∧
      (s'.around.journal.disk.isFile (Session.candidate c.logDirectory c.logBase m k) = true ↔
        (Session.standing (j.disk.ensureDirectory c.logDirectory).2 c.logDirectory
          c.logBase).countP (Session.startsFrom (m.later k).seconds) < c.logRetention) := by
  intro c j
  obtain ⟨session, made, hcreate, hpath, halike⟩ := w.enableDiagnostics_eq_ok h henable
  obtain ⟨m, k, hbound, hread, hname, hkept⟩ := Session.isFile_sweep_iff hbase hkeep hcreate
  refine ⟨m, k, hbound, hread, by rw [hpath, hname], ?_⟩
  rw [← hname, ← halike.isFile_eq]
  exact hkept

/-- A session keeps its file if all the files that stand in the directory start before the second
that the clock shows. -/
theorem active_session_kept_of_past (hbase : '/' ∉ w.config.logBase.toList)
    (hkeep : 1 ≤ w.config.logRetention) {s s' : Scene σ Watch}
    (h : s.around.journal.isRecording = false)
    (henable : w.enableDiagnostics.run.run s = (.ok (.ok ()), s'))
    (hpast : ∀ t ∈ Session.standing
      (s.around.journal.disk.ensureDirectory w.config.logDirectory).2 w.config.logDirectory
      w.config.logBase, Session.startsFrom s.around.journal.clock.shows.seconds t = false) :
    ∃ path, s'.around.journal.sessionPath = some path ∧
      s'.around.journal.disk.isFile path = true := by
  obtain ⟨m, k, -, hread, hpath, hkept⟩ := w.isFile_enableDiagnostics_iff hbase hkeep h henable
  obtain ⟨-, -, -, rfl⟩ := Clock.read_eq_ok_iff.mp hread
  refine ⟨_, hpath, hkept.mpr ?_⟩
  rw [List.countP_eq_zero.mpr]
  · exact hkeep
  · intro t ht
    have hbefore := hpast t ht
    simp only [Session.startsFrom, decide_eq_true_eq, decide_eq_false_iff_not,
      Moment.seconds_later] at hbefore ⊢
    omega

/-- In every run, the file that entering the mode has just made, `k` seconds ahead of the clock, is
there when the mode has been entered exactly if fewer session files than are kept stood in the
directory that start in that second or later. -/
theorem active_session_kept_iff (hbase : '/' ∉ w.config.logBase.toList)
    (hkeep : 1 ≤ w.config.logRetention) (host : σ) (disk : Disk) (clock : Clock)
    (steps : List (Clock × Operation)) (now : Clock) :
    let c := w.config
    let s := w.after (w.opening host disk clock) steps
    let r := w.enableDiagnostics.run.run (s.withClock now)
    s.around.journal.isRecording = false → r.1 = .ok (.ok ()) →
      ∃ m, ∃ k ≤ Session.maxRetries, now.read = .ok m ∧
        r.2.around.journal.sessionPath =
          some (Session.candidate c.logDirectory c.logBase m k) ∧
        (r.2.around.journal.disk.isFile (Session.candidate c.logDirectory c.logBase m k) = true ↔
          (Session.standing (s.around.journal.disk.ensureDirectory c.logDirectory).2
            c.logDirectory c.logBase).countP (Session.startsFrom (m.later k).seconds) <
              c.logRetention) := by
  intro c s r hoff hresult
  have hoff : (s.withClock now).around.journal.isRecording = false := hoff
  exact w.isFile_enableDiagnostics_iff hbase hkeep hoff (Prod.ext hresult rfl)

theorem active_session_kept_iff_first :
    let w := ProcessTable.watchdog 1
    let c := w.config
    let now : Clock := ⟨⟨1773047107, 0⟩⟩
    let s := w.after (w.opening {} .empty now) []
    let r := w.enableDiagnostics.run.run (s.withClock now)
    s.around.journal.isRecording = false ∧ r.1 = .ok (.ok ()) ∧
      ∃ m, ∃ k ≤ Session.maxRetries, now.read = .ok m ∧
        r.2.around.journal.sessionPath =
          some (Session.candidate c.logDirectory c.logBase m k) ∧
        (r.2.around.journal.disk.isFile (Session.candidate c.logDirectory c.logBase m k) = true ↔
          (Session.standing (s.around.journal.disk.ensureDirectory c.logDirectory).2
            c.logDirectory c.logBase).countP (Session.startsFrom (m.later k).seconds) < 1) :=
  have hresult : (((ProcessTable.watchdog 1).enableDiagnostics.run.run
      (((ProcessTable.watchdog 1).after ((ProcessTable.watchdog 1).opening {} .empty
        ⟨⟨1773047107, 0⟩⟩) []).withClock ⟨⟨1773047107, 0⟩⟩)).1) = .ok (.ok ()) := by
    decide +kernel
  ⟨rfl, hresult, active_session_kept_iff (ProcessTable.watchdog 1) (by decide) (by decide) {} .empty
    ⟨⟨1773047107, 0⟩⟩ [] ⟨⟨1773047107, 0⟩⟩ rfl hresult⟩

/-- Three sessions start within one second, and one file is kept. The second takes the name of the
next second, for which the first makes way; the third takes the free name of the first, and makes
way for the second. -/
theorem active_session_removed :
    let w := ProcessTable.watchdog 1
    let now : Clock := ⟨⟨1773047107, 0⟩⟩
    let s := w.after (w.opening {} .empty now)
      [(now, .enable), (now, .disable), (now, .enable), (now, .disable)]
    let r := w.enableDiagnostics.run.run (s.withClock now)
    s.around.journal.isRecording = false ∧ r.1 = .ok (.ok ()) ∧
      r.2.around.journal.sessionPath.map r.2.around.journal.disk.isFile = some false := by
  simp only [after, List.foldl, next, perform, enableDiagnostics, removeOld, Session.sweep,
    Session.expired, Session.newestFirst_eq_insertionSort]
  decide +kernel

end Watchdog

end ClipboardWatchdog
