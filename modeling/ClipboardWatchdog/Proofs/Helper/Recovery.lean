import ClipboardWatchdog.Helper.ProcessTable
import ClipboardWatchdog.Proofs.Helper.Exchanges

/-!
# Who has recovered

A reset counts as one that the helper has recovered from if the lookup at its end finds the helper
running and responding. The lookup is by name: it finds the process that was launched, or one that
outlived the reset, and the report does not tell the two apart. Where a process clings to life, the
second happens even if nothing could be launched.
-/

namespace ClipboardWatchdog

variable {σ ω : Type} {helper : String} {reason : Reason}

namespace Lookup

lemma health_of_first? {l : Lookup} {pid : Pid} {sample : Sample}
    (h : l.first? = some (pid, sample)) : l.health = .ofSample sample := by
  simp only [health, h]

/-- A lookup shows no trouble exactly if the first process that it found was there to be sampled,
and was responding. -/
lemma isUnhealthy_health_eq_false_iff {l : Lookup} :
    l.health.isUnhealthy = false ↔
      ∃ pid sample, l.first? = some (pid, sample) ∧ sample.responding = true := by
  cases h : l.first? with
  | none => simp [health, h, Health.isUnhealthy, Health.notRunning]
  | some first =>
    obtain ⟨pid, sample⟩ := first
    simp [health, h, Health.isUnhealthy, Health.ofSample]

end Lookup

namespace Course

/-- The process that was looked at in the end is the one that was launched. -/
def LooksAtLaunched (c : Course) : Prop :=
  ∃ pid sample, c.launched = .ok pid ∧ c.after.first? = some (pid, sample)

lemma recovered_report_iff {c : Course} :
    (c.report reason).recovered = true ↔
      ∃ pid sample, c.after.first? = some (pid, sample) ∧ sample.responding = true := by
  rw [← Lookup.isUnhealthy_health_eq_false_iff]
  simp [report]

lemma relaunched_report_eq_some_iff {c : Course} {pid : Pid} :
    (c.report reason).relaunched = some pid ↔ c.launched = .ok pid := by
  cases h : c.launched <;> simp [report, h, Except.toOption]

lemma launchError_report_of_ok {c : Course} {pid : Pid} (h : c.launched = .ok pid) :
    (c.report reason).launchError = none := by
  simp [report, h]

end Course

/-- The report speaks of the process that the reset has launched: the launch succeeded, and the
health is a sample of that process, running and responding. -/
structure Report.ShowsLaunched (r : Report) (after : Lookup) (pid : Pid) (sample : Sample) :
    Prop where
  relaunched : r.relaunched = some pid
  launchError : r.launchError = none
  looked : after.first? = some (pid, sample)
  health : r.healthAfter = .ofSample sample
  running : r.healthAfter.running = true
  responding : r.healthAfter.responding = true

namespace Course

/-- A report of recovery speaks of the process that was launched exactly if the lookup did. -/
lemma showsLaunched_report_iff {c : Course} (h : (c.report reason).recovered = true) :
    (∃ pid sample, (c.report reason).ShowsLaunched c.after pid sample) ↔ c.LooksAtLaunched := by
  constructor
  · rintro ⟨pid, sample, hshows⟩
    exact ⟨pid, sample, relaunched_report_eq_some_iff.mp hshows.relaunched, hshows.looked⟩
  · rintro ⟨pid, sample, hlaunched, hfirst⟩
    obtain ⟨pid', sample', hfirst', hresponding⟩ := recovered_report_iff.mp h
    obtain ⟨rfl, rfl⟩ := Prod.mk.inj (Option.some.inj (hfirst.symm.trans hfirst'))
    have hhealth : (c.report reason).healthAfter = .ofSample sample :=
      Lookup.health_of_first? hfirst
    exact ⟨pid, sample, {
      relaunched := relaunched_report_eq_some_iff.mpr hlaunched
      launchError := launchError_report_of_ok hlaunched
      looked := hfirst
      health := hhealth
      running := by rw [hhealth]; rfl
      responding := by rw [hhealth]; exact hresponding }⟩

/-- It speaks of another one exactly if the lookup came first to a process that was not launched
and that was responding. -/
lemma not_looksAtLaunched_iff {c : Course} (h : (c.report reason).recovered = true) :
    ¬c.LooksAtLaunched ↔
      ∃ pid sample, c.after.first? = some (pid, sample) ∧ sample.responding = true ∧
        c.launched ≠ .ok pid := by
  obtain ⟨pid, sample, hfirst, hresponding⟩ := recovered_report_iff.mp h
  constructor
  · intro hnot
    exact ⟨pid, sample, hfirst, hresponding, fun hl => hnot ⟨pid, sample, hl, hfirst⟩⟩
  · rintro ⟨pid, sample, hfirst, -, hne⟩ ⟨pid', sample', hl, hfirst'⟩
    obtain ⟨rfl, -⟩ := Prod.mk.inj (Option.some.inj (hfirst.symm.trans hfirst'))
    exact hne hl

end Course

/-- What it takes for a reset to report recovery, whatever the host does in its course: the first
process that the last lookup finds is sampled and responding. The report then speaks of the process
that the reset launched, except where that first process is another one. -/
theorem recovered_of_reset_iff {host : Host σ} {trace : Aside ω Unit} {s s' : Scene σ ω}
    {report : Report}
    (h : (reset host trace helper reason).run s = (.completed report, s')) :
    ∃ (c : Course) (t : Scene σ ω),
      Answered (makeCall host (dropRequest trace)) s.taken (c.exchanges helper) t ∧
        s' = t.freed true ∧ report = c.report reason ∧
        (report.recovered = true ↔
          ∃ pid sample, c.after.first? = some (pid, sample) ∧ sample.responding = true) ∧
        (report.recovered = true ∧ (¬∃ pid sample, report.ShowsLaunched c.after pid sample) ↔
          ∃ pid sample, c.after.first? = some (pid, sample) ∧ sample.responding = true ∧
            c.launched ≠ .ok pid) := by
  obtain ⟨c, t, hanswered, hs', rfl⟩ := exists_course_of_reset h
  refine ⟨c, t, hanswered, hs', rfl, Course.recovered_report_iff, ?_⟩
  constructor
  · rintro ⟨hrecovered, hnot⟩
    rw [Course.showsLaunched_report_iff hrecovered] at hnot
    exact (Course.not_looksAtLaunched_iff hrecovered).mp hnot
  · rintro ⟨pid, sample, hfirst, hresponding, hne⟩
    have hrecovered : (c.report reason).recovered = true :=
      Course.recovered_report_iff.mpr ⟨pid, sample, hfirst, hresponding⟩
    rw [Course.showsLaunched_report_iff hrecovered]
    exact ⟨hrecovered, (Course.not_looksAtLaunched_iff hrecovered).mpr
      ⟨pid, sample, hfirst, hresponding, hne⟩⟩

/-- A host with a responding helper that cannot be ended, where nothing can be launched, and an
engine that is free. -/
def ProcessTable.clinging : Scene ProcessTable Unit where
  engine := { host := {
    live := [⟨10, none, 20971520, 8388608, 250, 5, true, ⟨60, 0⟩⟩]
    found := [10]
    stubborn := [10]
    launch := .fails "access denied" } }
  around := ()

theorem recovered_of_reset_iff_clinging :
    ∃ report s',
      (reset ProcessTable.host (pure ()) "rdpclip.exe" .manual).run ProcessTable.clinging =
          (.completed report, s') ∧
        ∃ (c : Course) (t : Scene ProcessTable Unit),
          Answered (makeCall ProcessTable.host (dropRequest (pure ())))
              ProcessTable.clinging.taken (c.exchanges "rdpclip.exe") t ∧
            s' = t.freed true ∧ report = c.report .manual ∧
            (report.recovered = true ↔
              ∃ pid sample, c.after.first? = some (pid, sample) ∧ sample.responding = true) ∧
            (report.recovered = true ∧ (¬∃ pid sample, report.ShowsLaunched c.after pid sample) ↔
              ∃ pid sample, c.after.first? = some (pid, sample) ∧ sample.responding = true ∧
                c.launched ≠ .ok pid) :=
  ⟨_, _, rfl, recovered_of_reset_iff rfl⟩

/-- The helper that could not be ended makes the reset one of recovery, though nothing was
launched. -/
theorem recovered_without_launch :
    ∃ report s',
      (reset ProcessTable.host (pure ()) "rdpclip.exe" .manual).run ProcessTable.clinging =
          (.completed report, s') ∧
        report.recovered = true ∧ report.relaunched = none ∧
          report.launchError = some "Failed to launch rdpclip.exe: access denied" :=
  ⟨_, _, rfl, rfl, rfl, rfl⟩

end ClipboardWatchdog
