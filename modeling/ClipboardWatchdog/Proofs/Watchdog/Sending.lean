import ClipboardWatchdog.Proofs.Helper.Provenance
import ClipboardWatchdog.Proofs.Text.OneLine
import ClipboardWatchdog.Watchdog.Diagnostics

/-!
# What a watchdog puts on record

`Watchdog.Sends` lists the records that a watchdog makes of its own accord; beside them it records
the notifications that it is told of. Most of what they show it has made up itself. What comes from
outside is `Watchdog.External`: the name of the helper, the names of formats, and the texts of the
host. A record is on one line if all that it shows of these is. The text of the clipboard has no
part in this: a record shows its preview, its fingerprint and its length.
-/

namespace ClipboardWatchdog

open Text

variable {σ : Type}

/-- The texts in the message of an error. -/
def ProcessError.texts : ProcessError → List String
  | notFound _ | terminateFailed _ => []
  | launchFailed name reason => [name, reason]

/-- The category of the record of a notification. -/
def Notification.category (n : Notification) : Category :=
  if n.kind.isAnomaly then .warn else .diag

/-- The fault is one of the clock. -/
def Fault.IsClock (fault : Fault) : Prop := ∃ cause, fault = .clock cause

namespace Watchdog

/-- The records that a watchdog makes of its own accord. -/
inductive Sends (w : Watchdog σ) : Category → String → Prop
  | inaccessible : Sends w .warn ("Clipboard inaccessible (read failed or exceeded " ++
      decimal w.config.readLimit.millis ++ "ms)")
  | copy (copy : Copy) (snapshot : Option Snapshot) : Sends w .info (copy.line snapshot)
  | signalMissing (copy : Copy) : Sends w .warn
      ("Text changed but OS signal missing (sequence " ++ decimal copy.sequence ++ " unchanged)")
  | needsRestart (h : Health) :
      Sends w .warn ("Helper needs restart: " ++ ", ".intercalate h.restartReasons)
  | scheduled (copy : Copy) :
      Sends w .info ("Scheduled reset after " ++ decimal copy.number ++ " copies")
  | health (h : Health) : Sends w .diag (w.config.helper ++ " health: " ++ h.summary)
  | manual : Sends w .info manualText
  | skipped (reason : Reason) : Sends w .info (skipText reason)
  | failure {report : Report} (hreport : (Outcome.completed report).ComesFrom w.host
      w.config.helper Fault.IsClock) {text : String} (htext : text ∈ report.failures) :
      Sends w .warn text
  | recovered {report : Report} (hreport : (Outcome.completed report).ComesFrom w.host
      w.config.helper Fault.IsClock) : Sends w .ok report.summary
  | healthAfter (h : Health) : Sends w .diag ("Health after reset: " ++ h.summary)
  | notRecovered {report : Report} (hreport : (Outcome.completed report).ComesFrom w.host
      w.config.helper Fault.IsClock) : Sends w .error report.summary
  | aborted (reason : Reason) {message : String} (hmessage : (Outcome.failed message).ComesFrom
      w.host w.config.helper Fault.IsClock) :
      Sends w .error ("Reset (" ++ reason.describe ++ ") aborted: " ++ message)
  | removed (n : ℕ) : Sends w .diag ("Removed " ++ decimal n ++ " old session file(s)")
  | counts (copies resets : ℕ) : Sends w .diag
      ("Copies so far: " ++ decimal copies ++ ", resets so far: " ++ decimal resets)
  | unavailable : Sends w .warn
      ("Clipboard event listener unavailable: " ++ ClipboardError.unsupported.message)
  | disabled : Sends w .info "Diagnostic mode disabled"
  | started : Sends w .info w.startText

/-- The texts that come from outside: the name of the helper, the names of the formats of the
notifications that it is told of, the texts of the errors that the host gives, and those of the
faults that it throws. -/
inductive External (w : Watchdog σ) (told : Notification → Prop) : String → Prop
  | helper : External w told w.config.helper
  | format {n : Notification} (hn : told n) {f : Format} (hf : f ∈ n.snapshot.formats) :
      External w told f.name
  | terminate {pid : Pid} {e : ProcessError} (h : w.host.Gives (.terminate pid) (.error e))
      {t : String} (ht : t ∈ e.texts) : External w told t
  | launch {e : ProcessError} (h : w.host.Gives (.launch w.config.helper) (.error e)) {t : String}
      (ht : t ∈ e.texts) : External w told t
  | fault {t : String} (h : w.host.Throws (.text t)) : External w told t

end Watchdog

/-! ### Messages of errors and reports -/

lemma oneLine_processError {e : ProcessError}
    (h : ∀ t ∈ e.texts, Shows e.message t → OneLine t) : OneLine e.message := by
  cases e with
  | notFound pid =>
    dsimp only [ProcessError.message]
    simp only [oneLine_append_iff, oneLine_decimal]
    decide +kernel
  | terminateFailed pid =>
    dsimp only [ProcessError.message]
    simp only [oneLine_append_iff, oneLine_decimal]
    decide +kernel
  | launchFailed name reason =>
    dsimp only [ProcessError.message] at h ⊢
    have hname : OneLine name := by
      refine h name (by simp [ProcessError.texts]) ?_
      exact (((Shows.refl name).append_left _).append_right _).append_right _
    have hreason : OneLine reason :=
      h reason (by simp [ProcessError.texts]) ((Shows.refl reason).append_left _)
    simp only [oneLine_append_iff, hname, hreason]
    decide +kernel

lemma oneLine_describe (reason : Reason) : OneLine reason.describe := by
  cases reason <;> decide +kernel

/-- The summary of a report shows the text of a failed launch, and nothing else from outside. -/
lemma oneLine_summary {r : Report}
    (h : ∀ text, r.launchError = some text → Shows r.summary text → OneLine text) :
    OneLine r.summary := by
  have hshown (text : String) (hnone : r.relaunched = none) (htext : r.launchError = some text) :
      OneLine text := by
    refine h text htext ?_
    unfold Report.summary
    rw [hnone, htext]
    exact ((((((Shows.refl text).append_left _).append_left _).append_right _).append_right
      _).append_right _).append_right _
  have hfront : (OneLine "Reset (" ∧ OneLine "): found ") ∧ OneLine ", terminated " := by
    decide +kernel
  have hfailed : OneLine (", " ++ decimal r.failures.length ++ " failed to terminate") := by
    simp only [oneLine_append_iff, oneLine_decimal]
    decide +kernel
  unfold Report.summary
  simp only [oneLine_append_iff, oneLine_decimal, oneLine_describe, and_true]
  refine ⟨⟨⟨⟨⟨hfront, oneLine_ite (by decide +kernel) hfailed⟩, ?_⟩, ?_⟩, by decide +kernel⟩,
    by decide +kernel⟩
  · split
    · simp only [oneLine_append_iff, oneLine_decimal]
      decide +kernel
    · next text hnone htext =>
      simp only [oneLine_append_iff, hshown text hnone htext]
      decide +kernel
    · decide +kernel
  · exact oneLine_ite (by decide +kernel) (by decide +kernel)

/-! ### Copies and notifications -/

/-- Whatever text was copied, its record is on one line. -/
lemma Copy.oneLine_line (c : Copy) (snapshot : Option Snapshot) : OneLine (c.line snapshot) := by
  have hprint : OneLine ((snapshot.bind (·.print)).getD "-") := by
    cases snapshot with
    | none => decide +kernel
    | some s => exact oneLine_print s
  have hpreview : OneLine ((snapshot.map (·.preview previewLength)).getD "") := by
    cases snapshot with
    | none => decide +kernel
    | some s => exact oneLine_preview _ s
  unfold Copy.line
  simp only [oneLine_append_iff, oneLine_decimal, hprint, hpreview]
  decide +kernel

lemma shows_formatList {s : Snapshot} {f : Format} (h : f ∈ s.formats) :
    Shows s.formatList f.name := by
  have hne : ¬s.formats.isEmpty = true := by
    rw [List.isEmpty_iff]
    exact List.ne_nil_of_mem h
  unfold Snapshot.formatList
  rw [if_neg hne]
  exact (shows_intercalate (List.mem_map_of_mem h)).trans ((Shows.refl f.name).append_left _)

lemma oneLine_formatList {s : Snapshot} (h : ∀ f ∈ s.formats, OneLine f.name) :
    OneLine s.formatList := by
  unfold Snapshot.formatList
  split
  · decide +kernel
  · refine oneLine_intercalate (by decide +kernel) fun t ht => ?_
    obtain ⟨f, hf, rfl⟩ := List.mem_map.mp ht
    simp only [oneLine_append_iff, oneLine_decimal, h f hf]
    decide +kernel

/-- The record of a notification shows the names of the formats, and nothing else from outside. -/
lemma Notification.oneLine_line {n : Notification} {latency : Span}
    (h : ∀ f ∈ n.snapshot.formats, Shows (n.line latency) f.name → OneLine f.name) :
    OneLine (n.line latency) := by
  have hformats : OneLine n.snapshot.formatList := by
    refine oneLine_formatList fun f hf => h f hf ?_
    unfold Notification.line
    exact ((((shows_formatList hf).append_left _).append_right _).append_right _).append_right _
  have hkind : OneLine n.kind.describe := by
    cases n.kind <;> decide +kernel
  unfold Notification.line
  simp only [oneLine_append_iff, oneLine_decimal, oneLine_print, hformats, hkind]
  decide +kernel

/-! ### Records -/

namespace Watchdog

variable {w : Watchdog σ} {told : Notification → Prop} {category : Category} {message : String}

/-- Of the errors that the host gives, the message shows texts from outside only. -/
lemma oneLine_error {e : ProcessError} (he : ∀ t ∈ e.texts, w.External told t)
    (hshown : Shows message e.message)
    (h : ∀ t, w.External told t → Shows message t → OneLine t) : OneLine e.message :=
  oneLine_processError fun t ht hmessage => h t (he t ht) (hshown.trans hmessage)

lemma oneLine_report {report : Report}
    (hreport : (Outcome.completed report).ComesFrom w.host w.config.helper Fault.IsClock)
    (h : ∀ t, w.External told t → Shows report.summary t → OneLine t) : OneLine report.summary := by
  refine oneLine_summary fun text htext hshown => ?_
  obtain ⟨e, he, rfl⟩ := hreport.2 text htext
  exact oneLine_error (fun _ => .launch he) hshown h

/-- A record is on one line if all texts from outside that it shows are. -/
lemma Sends.oneLine (hsent : w.Sends category message)
    (h : ∀ t, w.External told t → Shows message t → OneLine t) : OneLine message := by
  cases hsent with
  | inaccessible =>
    simp only [oneLine_append_iff, oneLine_decimal]
    decide +kernel
  | copy copy snapshot => exact copy.oneLine_line snapshot
  | signalMissing copy =>
    simp only [oneLine_append_iff, oneLine_decimal]
    decide +kernel
  | needsRestart health =>
    have hreasons : OneLine (", ".intercalate health.restartReasons) := by
      refine oneLine_intercalate (by decide +kernel) ?_
      unfold Health.restartReasons
      simp only [List.forall_mem_append]
      refine ⟨⟨⟨?_, ?_⟩, ?_⟩, ?_⟩ <;> split <;> simp <;> decide +kernel
    simp only [oneLine_append_iff, hreasons]
    decide +kernel
  | scheduled copy =>
    simp only [oneLine_append_iff, oneLine_decimal]
    decide +kernel
  | health health =>
    have hhelper : OneLine w.config.helper :=
      h _ .helper (((Shows.refl _).append_right _).append_right _)
    simp only [oneLine_append_iff, hhelper, oneLine_health]
    decide +kernel
  | manual => decide +kernel
  | skipped reason =>
    unfold skipText
    simp only [oneLine_append_iff, oneLine_describe]
    decide +kernel
  | failure hreport htext =>
    obtain ⟨pid, e, he, rfl⟩ := hreport.1 _ htext
    exact oneLine_error (fun _ => .terminate he) (.refl _) h
  | recovered hreport => exact oneLine_report hreport h
  | healthAfter health =>
    simp only [oneLine_append_iff, oneLine_health]
    decide +kernel
  | notRecovered hreport => exact oneLine_report hreport h
  | aborted reason hmessage =>
    obtain ⟨fault, hfault, rfl⟩ := hmessage
    have htext : OneLine fault.message := by
      cases fault with
      | text t =>
        rcases hfault with hthrows | ⟨_, ⟨⟩⟩
        exact h t (.fault hthrows) ((Shows.refl t).append_left _)
      | unreadable => decide +kernel
      | clock cause => exact oneLine_clockFault cause
    simp only [oneLine_append_iff, oneLine_describe, htext]
    decide +kernel
  | removed n =>
    simp only [oneLine_append_iff, oneLine_decimal]
    decide +kernel
  | counts copies resets =>
    simp only [oneLine_append_iff, oneLine_decimal]
    decide +kernel
  | unavailable => decide +kernel
  | disabled => decide +kernel
  | started =>
    have hhelper : OneLine w.config.helper := by
      refine h _ .helper ?_
      unfold startText
      exact ((((((((Shows.refl _).append_left _).append_right _).append_right _).append_right
        _).append_right _).append_right _).append_right _).append_right _
    have hrole : OneLine w.config.role.label := by
      cases w.config.role <;> decide +kernel
    unfold startText
    simp only [oneLine_append_iff, oneLine_decimal, hhelper, hrole]
    decide +kernel

end Watchdog

end ClipboardWatchdog
