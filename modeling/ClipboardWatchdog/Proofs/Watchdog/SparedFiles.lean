import ClipboardWatchdog.Proofs.Session.Sparing
import ClipboardWatchdog.Proofs.Watchdog.ActiveSession
import ClipboardWatchdog.Proofs.Watchdog.Journaling

/-!
# Files that a watchdog leaves alone

A watchdog writes to the file of the attached session, and it makes and removes session files. Every
one of them ends in `.log`, so that whatever it is asked to do, it `Spares` a file with another
ending.
-/

namespace ClipboardWatchdog

variable {σ : Type} {file : Path} {d : Disk}

namespace Journal

lemma Appends.content?_of_not_endsIn {j j' : Journal} (h : Appends j j')
    (hlog : ∀ path ∈ j.sessionPath, path.EndsIn Session.ending)
    (hfile : ¬file.EndsIn Session.ending) {content : Content}
    (hcontent : j.disk.content? file = some content) :
    j'.disk.content? file = some content := by
  rcases h with h | ⟨path, hpath, text, h⟩
  · rwa [h]
  · rw [h]
    exact Disk.content?_append_of_endsIn (hlog path hpath) hfile text hcontent

end Journal

/-- The file of the attached session is a session file by its ending, and what was written in
another file on a disk is still written there. -/
structure Watch.Spares (file : Path) (d : Disk) (v : Watch) : Prop where
  log : ∀ path ∈ v.journal.sessionPath, path.EndsIn Session.ending
  kept : ∀ content, d.content? file = some content → v.journal.disk.content? file = some content

lemma Watch.Spares.of_journal {v v' : Watch} (h : v.Spares file d) (hj : v'.journal = v.journal) :
    v'.Spares file d where
  log := by
    rw [hj]
    exact h.log
  kept := by
    rw [hj]
    exact h.kept

lemma Watch.Spares.appends {v : Watch} (h : v.Spares file d) (hfile : ¬file.EndsIn Session.ending)
    {j : Journal} (happends : v.journal.Appends j)
    (hpath : ∀ path ∈ j.sessionPath, path ∈ v.journal.sessionPath) :
    ({ v with journal := j } : Watch).Spares file d where
  log path hj := h.log path (hpath path hj)
  kept content hcontent := happends.content?_of_not_endsIn h.log hfile (h.kept content hcontent)

lemma Watch.Spares.record {v : Watch} (h : v.Spares file d) (hfile : ¬file.EndsIn Session.ending)
    (category : Category) (message : String) :
    ({ v with journal := (v.journal.record (some category) message).2 } : Watch).Spares file d := by
  refine h.appends hfile (v.journal.appends_record _ _) fun path hpath => ?_
  rwa [(v.journal.record_snd (some category) message).1] at hpath

namespace Watchdog

variable (w : Watchdog σ) (hfile : ¬file.EndsIn Session.ending)

include hfile

lemma steady_spares (d : Disk) : w.Steady (Watch.Spares file d) where
  monitor _ _ h := h.of_journal rfl
  status _ _ _ h := h.of_journal rfl
  deliveries _ _ h := h.of_journal rfl
  record _ category message _ h := h.record hfile category message
  addSection v title h := by
    refine h.appends hfile (v.journal.appends_addSection title) fun path hpath => ?_
    rwa [(v.journal.addSection_sessionPath title).1] at hpath

lemma spares_removeOld :
    Keeps (fun s : Scene σ Watch => s.around.Spares file d) w.removeOld := by
  refine Keeps.note fun v hv => ?_
  have hswept : ({ v with journal := { v.journal with disk :=
      (Session.sweep v.journal.disk w.config.logDirectory w.config.logBase
        w.config.logRetention).2 } } : Watch).Spares file d :=
    ⟨hv.log, fun content h => Session.content?_sweep hfile _ (hv.kept content h)⟩
  dsimp only [Journal.noteRemoved]
  split
  · exact (w.steady_spares hfile d).record _ _ _ (.removed _) hswept
  · exact hswept

/-- A session that is attached has a file of its own, and spares the others. -/
lemma spares_openSession {s : Scene σ Watch} (h : s.around.Spares file d)
    (hoff : s.around.journal.isRecording = false) :
    (w.openSession.run.run s).2.around.Spares file d := by
  rw [run_openSession_of_not_recording w hoff]
  dsimp only
  rcases hmade : Session.create s.around.journal.disk s.around.journal.clock w.config.origin
    w.config.logDirectory w.config.logBase w.config.role w.config.helper with ⟨result, disk⟩
  have hgrown (e : SessionError) (he : result = .error e) (content : Content)
      (hcontent : d.content? file = some content) : disk.content? file = some content := by
    rw [he] at hmade
    rw [Session.disk_of_create_eq_error hmade]
    exact (Disk.grown_of_ensureDirectory _ _).content? (h.kept content hcontent)
  rcases result with (e | fault) | session
  · exact ⟨by simp [Journal.sessionPath], hgrown _ rfl⟩
  · exact ⟨by simp [Journal.sessionPath], hgrown _ rfl⟩
  · obtain ⟨hpath, hkept⟩ := Session.content?_create hfile hmade
    refine ⟨?_, fun content hcontent => hkept content (h.kept content hcontent)⟩
    simpa [Journal.sessionPath] using hpath

lemma spares_startSession {s : Scene σ Watch} (h : s.around.Spares file d)
    (hoff : s.around.journal.isRecording = false) :
    (w.startSession.run.run s).2.around.Spares file d := by
  have hopened := w.spares_openSession hfile h hoff
  have hrest : Keeps (fun s : Scene σ Watch => s.around.Spares file d)
      (do w.removeOld; w.recordState; return .ok () : Work σ (Except DiskError Unit)) :=
    (w.spares_removeOld hfile).bind fun _ =>
      (w.steady_spares hfile d).keeps_recordState.bind fun _ => .pure _
  unfold startSession
  rw [run_run_bind]
  revert hopened
  rcases w.openSession.run.run s with ⟨fault | e | ⟨⟩, s₁⟩
  · exact id
  · exact id
  · exact hrest s₁

lemma spares_enableDiagnostics :
    Keeps (fun s : Scene σ Watch => s.around.Spares file d) w.enableDiagnostics := by
  intro s hs
  cases hon : s.around.journal.isRecording with
  | true =>
    rw [w.run_enableDiagnostics_of_recording hon]
    exact hs
  | false =>
    have hstarted := w.spares_startSession hfile hs hon
    rw [w.run_enableDiagnostics_of_not_recording hon]
    revert hstarted
    rcases w.startSession.run.run s with ⟨fault | e | ⟨⟩, s₁⟩
    · exact id
    · exact id
    · exact fun hstarted => hstarted.of_journal (w.run_announceSession_snd s₁).1

lemma spares_disableDiagnostics :
    Keeps (fun s : Scene σ Watch => s.around.Spares file d) w.disableDiagnostics := by
  have hsteady := w.steady_spares hfile d
  have hdetach : Keeps (fun s : Scene σ Watch => s.around.Spares file d)
      (Work.note (·.detach) : Work σ (Option Path)) := by
    refine .note fun v hv => hv.appends hfile v.journal.appends_detach fun path hpath => ?_
    have hnone : v.journal.detach.2.sessionPath = none := by
      simpa [Journal.sessionPath, Journal.isRecording] using v.journal.isRecording_detach
    rw [hnone] at hpath
    cases hpath
  refine Keeps.watch.bind fun watch => .ite ?_ (.pure _)
  refine (hsteady.keeps_record .disabled).bind fun _ => hdetach.bind fun _ => ?_
  exact (Keeps.onWatch fun v hv => hv.of_journal rfl).bind fun _ => hsteady.keeps_emit

/-- Whatever a watchdog is asked to do, it leaves a file alone that is no session file by its
ending. -/
lemma spares_perform (op : Operation) :
    Keeps (fun s : Scene σ Watch => s.around.Spares file d) (w.perform op) := by
  have hsteady := w.steady_spares hfile d
  cases op with
  | poll o => exact (hsteady.keeps_pollOnce o).bind fun _ => .pure _
  | notify n latency =>
    exact .onNotification fun _ hv => hv.record hfile _ _
  | reset => exact hsteady.keeps_resetManually.bind fun _ => .pure _
  | enable => exact (w.spares_enableDiagnostics hfile).bind fun _ => .pure _
  | disable => exact w.spares_disableDiagnostics hfile
  | shutdown =>
    exact (hsteady.keeps_onMonitor _).bind fun _ => w.spares_disableDiagnostics hfile

end Watchdog

end ClipboardWatchdog
