import ClipboardWatchdog.Proofs.Watchdog.Reentry

/-!
# What becomes of a suspension of polling

A manual reset suspends polling when it begins and resumes it when it comes back, and both only set
a flag. `Scene.Lasts` says what all other work does to the flag, resets included: a suspension lasts
until a request of the host comes back, and none begins. `ends_resetManually` says what a manual
reset comes to: polling is not suspended when it has come back, and a fault that leaves it leaves
the suspension that it has begun.
-/

namespace ClipboardWatchdog

variable {σ α : Type}

/-- The visit is a request that has come back. -/
def Visit.isAsked : Visit → Bool
  | made _ => false
  | asked _ => true

/-- The number of the host's requests that have come back. -/
def Engine.requests (e : Engine σ) : ℕ := e.visits.countP (·.isAsked)

namespace Scene

/-- Polling is suspended. -/
def isPaused (s : Scene σ Watch) : Bool := s.around.monitor.paused

/-- From the first scene to the second, a suspension of polling lasts until a request comes back,
and none begins. -/
structure Lasts (s t : Scene σ Watch) : Prop where
  visits : s.engine.visits <+: t.engine.visits
  paused : t.isPaused = true ↔ s.isPaused = true ∧ t.engine.requests = s.engine.requests

/-- After the first scene, polling was resumed in the second. -/
structure Resumes (s t : Scene σ Watch) : Prop where
  visits : s.engine.visits <+: t.engine.visits
  paused : t.isPaused = false

variable {s t u : Scene σ Watch}

lemma requests_le (h : s.engine.visits <+: t.engine.visits) :
    s.engine.requests ≤ t.engine.requests :=
  h.sublist.countP_le

namespace Lasts

lemma of_same (hengine : t.engine = s.engine) (hpaused : t.isPaused = s.isPaused) :
    s.Lasts t where
  visits := hengine ▸ List.prefix_rfl
  paused := by
    rw [hengine, hpaused]
    exact ⟨fun h => ⟨h, rfl⟩, And.left⟩

protected lemma refl (s : Scene σ Watch) : s.Lasts s := of_same rfl rfl

protected lemma trans (h : s.Lasts t) (h' : t.Lasts u) : s.Lasts u := by
  have hst := requests_le h.visits
  have htu := requests_le h'.visits
  refine ⟨h.visits.trans h'.visits, ?_⟩
  rw [h'.paused, h.paused, and_assoc]
  refine and_congr_right fun _ => ⟨fun ⟨ht, hu⟩ => hu.trans ht, fun hu => ?_⟩
  constructor <;> omega

lemma withHost (h : s.Lasts t) (host : σ) : s.Lasts (t.withHost host) := ⟨h.visits, h.paused⟩

lemma taken (h : s.Lasts t) : s.Lasts t.taken := ⟨h.visits, h.paused⟩

lemma made (h : s.Lasts t) (c : Call) : s.Lasts (t.visited (.made c)) := by
  refine h.trans ⟨List.prefix_append _ _, ?_⟩
  have hrequests : (t.visited (.made c)).engine.requests = t.engine.requests := by
    simp [Engine.requests, visited, Visit.isAsked]
  rw [hrequests]
  exact ⟨fun hp => ⟨hp, rfl⟩, And.left⟩

end Lasts

/-- A request that has come back has resumed polling. -/
lemma Resumes.asked (h : s.Resumes t) (standing : Standing) :
    s.Lasts (t.visited (.asked standing)) := by
  have hrequests : (t.visited (.asked standing)).engine.requests = t.engine.requests + 1 := by
    simp [Engine.requests, visited, Visit.isAsked]
  have hpaused : (t.visited (.asked standing)).isPaused = false := h.paused
  have hle := requests_le h.visits
  refine ⟨h.visits.trans (List.prefix_append _ _), ?_⟩
  rw [hrequests, hpaused]
  constructor
  · intro hpaused
    cases hpaused
  · rintro ⟨-, hnone⟩
    omega

end Scene

variable {s₀ : Scene σ Watch} {w : Watchdog σ}

/-! ### Work that has no part in it -/

namespace Keeps

lemma lasts_of_same {a : Work σ α} (h : ∀ s, (a.run.run s).2.engine = s.engine ∧
    (a.run.run s).2.isPaused = s.isPaused) : Keeps s₀.Lasts a :=
  fun s hs => hs.trans (.of_same (h s).1 (h s).2)

lemma lasts_note {f : Journal → Journal.Written α} : Keeps s₀.Lasts (Work.note f : Work σ α) := by
  refine lasts_of_same fun s => ?_
  rw [run_note]
  exact ⟨rfl, rfl⟩

lemma lasts_onWatch {f : Watch → Watch} (hf : ∀ v, (f v).monitor = v.monitor) :
    Keeps s₀.Lasts (Work.onWatch f : Work σ Unit) :=
  lasts_of_same fun s => ⟨rfl, congrArg Monitor.paused (hf s.around)⟩

lemma lasts_onStatus (f : Status → Status) : Keeps s₀.Lasts (Work.onStatus f : Work σ Unit) :=
  lasts_onWatch fun _ => rfl

lemma lasts_onMonitor {f : Monitor → Monitor} (hf : ∀ m, (f m).paused = m.paused) :
    Keeps s₀.Lasts (Work.onMonitor f : Work σ Unit) :=
  lasts_of_same fun s => ⟨rfl, hf s.around.monitor⟩

lemma lasts_emit : Keeps s₀.Lasts w.emit := by
  refine lasts_of_same fun s => ?_
  rw [Watchdog.run_emit]
  split <;> exact ⟨rfl, rfl⟩

lemma lasts_say (message : String) : Keeps s₀.Lasts (w.say message) :=
  (lasts_onStatus _).bind fun _ => lasts_emit

lemma lasts_clockText : Keeps s₀.Lasts (Work.clockText : Work σ String) := by
  refine lasts_of_same fun s => ?_
  rw [Watchdog.run_clockText]
  exact ⟨rfl, rfl⟩

lemma lasts_tell (reason : Reason) (outcome : Outcome) :
    Keeps s₀.Lasts (w.tell reason outcome) := by
  cases outcome with
  | completed report =>
    have hcount : Keeps s₀.Lasts w.showRuns :=
      .bind (.bind .get fun _ => .pure _) fun _ => (lasts_onStatus _).bind fun _ => lasts_emit
    refine (Keeps.forM fun _ _ => lasts_note).bind fun _ => .ite ?_ ?_
    · exact lasts_note.bind fun _ => lasts_note.bind fun _ => lasts_clockText.bind fun _ =>
        (lasts_say _).bind fun _ => hcount
    · exact lasts_note.bind fun _ => (lasts_say _).bind fun _ => hcount
  | coalesced => exact lasts_note
  | failed message => exact lasts_note.bind fun _ => lasts_say _

lemma lasts_tick (o : Observation) : Keeps s₀.Lasts (w.tick o) := by
  refine lasts_of_same fun s => ?_
  rw [Watchdog.run_tick]
  exact ⟨rfl, rfl⟩

lemma modeFree_lasts : w.ModeFree s₀.Lasts where
  note _ := lasts_note
  onJournal _ := lasts_onWatch fun _ => rfl
  showMode _ := (lasts_onStatus _).bind fun _ => lasts_emit

end Keeps

/-! ### Requests of the host -/

section

variable {ask : Act σ Watch Standing} {E : Fault → Scene σ Watch → Prop}
  (hask : Ends s₀.Lasts ask (fun _ => s₀.Resumes) E)

include hask

/-- Wherever the host is at work on a call, a suspension has lasted if no request has come back. -/
lemma lasts_of_mem_reply (reply : Reply σ α) {s t : Scene σ Watch} (hs : s₀.Lasts s)
    (ht : t ∈ reply.stages ask s) : s₀.Lasts t := by
  induction reply generalizing s with
  | answers a host =>
    obtain rfl := List.mem_singleton.mp ht
    exact hs.withHost host
  | breaks fault host =>
    obtain rfl := List.mem_singleton.mp ht
    exact hs.withHost host
  | asks host resume ih =>
    rw [Reply.stages, List.mem_cons] at ht
    rcases ht with rfl | ht
    · exact hs.withHost host
    · have hback := hask _ (hs.withHost host)
      revert hback ht
      rcases ask.run.run (s.withHost host) with ⟨fault | standing, s'⟩
      · intro ht
        cases ht
      · intro ht hback
        exact ih standing s'.engine.host (hback.asked standing) ht

variable (hE : ∀ fault s, s₀.Lasts s → E fault s)

include hE

lemma ends_lasts_settle (reply : Reply σ α) :
    Ends s₀.Lasts (reply.settle ask) (fun _ => s₀.Lasts) E := by
  induction reply with
  | answers a host =>
    exact (Ends.modify fun s hs => hs.withHost host).bind fun _ => .pure fun _ hs => hs
  | breaks fault host =>
    exact (Ends.modify fun s hs => hs.withHost host).bind fun _ => .throw (hE fault)
  | asks host resume ih =>
    refine (Ends.modify fun s hs => hs.withHost host).bind fun _ => hask.bind fun standing => ?_
    have hasked : Ends s₀.Resumes (modify (·.visited (.asked standing)) : Act σ Watch PUnit)
        (fun _ => s₀.Lasts) E := .modify fun s hs => hs.asked standing
    exact hasked.bind fun _ s hs => ih standing s.engine.host s hs

lemma ends_lasts_makeCall (host : Host σ) (c : Call) :
    Ends s₀.Lasts (makeCall host ask c) (fun _ => s₀.Lasts) E := by
  have hmade : Ends s₀.Lasts (modify (·.visited (.made c)) : Act σ Watch PUnit)
      (fun _ => s₀.Lasts) E := .modify fun s hs => hs.made c
  exact hmade.bind fun _ s hs => ends_lasts_settle hask hE (host c s.engine.host) s hs

lemma ends_lasts_procedure (host : Host σ) (p : Procedure α) :
    Ends s₀.Lasts (p.run (makeCall host ask)) (fun _ => s₀.Lasts) E := by
  induction p with
  | done a => exact .pure fun _ hs => hs
  | call c next ih => exact (ends_lasts_makeCall hask hE host c).bind ih

/-- Wherever the host is at work on a procedure, a suspension has lasted if no request has come
back. -/
lemma lasts_of_mem {host : Host σ} (p : Procedure α) {s t : Scene σ Watch} (hs : s₀.Lasts s)
    (ht : t ∈ p.stages host ask s) : s₀.Lasts t := by
  induction p generalizing s with
  | done a => cases ht
  | call c next ih =>
    rw [Procedure.stages, List.mem_cons, List.mem_append] at ht
    rcases ht with rfl | ht | ht
    · exact hs.made c
    · exact lasts_of_mem_reply hask _ (hs.made c) ht
    · have hcall := ends_lasts_makeCall hask hE host c s hs
      revert hcall ht
      rcases (makeCall host ask c).run.run s with ⟨fault | answer, s'⟩
      · intro ht
        cases ht
      · exact fun ht hcall => ih answer hcall ht

end

/-! ### Resets -/

/-- A record that goes through shows that records are taken. -/
lemma ends_lasts_record (category : Option Category) (message : String) :
    Ends s₀.Lasts (Work.note (·.record category message) : Work σ Unit)
      (fun _ s => s₀.Lasts s ∧ s.around.journal.TakesRecords) fun _ => s₀.Lasts := by
  intro s hs
  by_cases htakes : s.around.journal.TakesRecords
  · rw [run_note, Journal.record_fst_of_takesRecords htakes]
    exact ⟨hs.trans (.of_same rfl rfl), Journal.takesRecords_record htakes _ _⟩
  · obtain ⟨hrecording, cause, hread⟩ := Journal.not_takesRecords_iff.mp htakes
    rw [run_note, Journal.record_of_unreadable hread hrecording]
    exact hs.trans (.of_same rfl rfl)

/-- A request that is dropped resumes polling, unless its first record fails. -/
lemma ends_lasts_dropRequest :
    Ends s₀.Lasts (dropRequest Watch.dropManual : Act σ Watch Standing) (fun _ => s₀.Resumes)
      fun _ => s₀.Lasts := by
  let P (s : Scene σ Watch) : Prop :=
    s₀.engine.visits <+: s.engine.visits ∧ s.around.journal.TakesRecords
  have hpause : Ends (fun s => s₀.Lasts s ∧ s.around.journal.TakesRecords)
      (aside (Watch.onMonitor (·.pause)) : Work σ Unit) (fun _ => P) fun _ => s₀.Lasts :=
    fun s hs => ⟨hs.1.visits, hs.2⟩
  have hskip : Ends P (Work.note (·.record (some .info) (skipText .manual)) : Work σ Unit)
      (fun _ => P) fun _ => s₀.Lasts := by
    rintro s ⟨hvisits, htakes⟩
    rw [run_note, Journal.record_fst_of_takesRecords htakes]
    exact ⟨hvisits, Journal.takesRecords_record htakes _ _⟩
  have hresume : Ends P (aside (Watch.onMonitor (·.resume)) : Work σ Unit) (fun _ => s₀.Resumes)
      fun _ => s₀.Lasts :=
    fun s hs => ⟨hs.1, rfl⟩
  simp only [dropRequest, Watch.dropManual, aside_bind, bind_assoc]
  refine (ends_lasts_record _ _).bind fun _ => hpause.bind fun _ => hskip.bind fun _ =>
    hresume.bind fun _ => ?_
  exact fun s hs => hs

lemma Keeps.lasts_reset (reason : Reason) :
    Keeps s₀.Lasts
      (liftM (reset w.host Watch.dropManual w.config.helper reason) : Work σ Outcome) := by
  refine Keeps.lift fun s hs => ?_
  cases hbusy : s.engine.busy with
  | true =>
    rw [reset_of_busy _ _ _ _ hbusy]
    exact hs
  | false =>
    have hrun := ends_lasts_procedure ends_lasts_dropRequest (fun _ _ h => h) w.host
      (restart w.config.helper reason) s.taken hs.taken
    rw [run_reset_of_free _ _ _ _ hbusy]
    revert hrun
    rcases ((restart w.config.helper reason).run
      (makeCall w.host (dropRequest Watch.dropManual))).run.run s.taken with ⟨fault | report, s'⟩
    · exact fun hrun => ⟨hrun.visits, hrun.paused⟩
    · exact fun hrun => ⟨hrun.visits, hrun.paused⟩

lemma Keeps.lasts_remediate (reason : Reason) : Keeps s₀.Lasts (w.remediate reason) := by
  rw [Watchdog.remediate_eq]
  exact (lasts_reset reason).bind fun outcome => (lasts_tell reason outcome).bind fun _ => .pure _

/-! ### Manual resets -/

namespace Watchdog

/-- What follows once a manual reset has suspended polling. -/
def finishReset (w : Watchdog σ) : Work σ Outcome := do
  let outcome ← w.remediate .manual
  Work.onMonitor (·.resume)
  return outcome

/-- A manual reset that is put on record begins with polling suspended. -/
lemma exists_begun {s : Scene σ Watch} (h : s.around.journal.TakesRecords) :
    ∃ begun : Scene σ Watch, begun.engine = s.engine ∧ begun.isPaused = true ∧
      w.resetManually.run.run s = w.finishReset.run.run begun := by
  let around : Watch := { s.around with
    journal := (s.around.journal.info manualText).2, monitor := s.around.monitor.pause }
  refine ⟨{ s with around }, rfl, rfl, ?_⟩
  rw [resetManually_eq, run_run_bind, leadReset, run_run_bind, run_note]
  simp only [Journal.info, Journal.record_fst_of_takesRecords h, Except.mapError]
  rfl

lemma ends_finishReset :
    Ends s₀.Lasts w.finishReset (fun _ => s₀.Resumes) fun _ => s₀.Lasts := by
  have hresume : Ends s₀.Lasts (Work.onMonitor (·.resume) : Work σ Unit) (fun _ => s₀.Resumes)
      fun _ => s₀.Lasts :=
    fun s hs => ⟨hs.visits, rfl⟩
  exact (Ends.of_keeps (Keeps.lasts_remediate .manual)).bind fun _ => hresume.bind fun _ =>
    .pure fun _ hs => hs

variable (w)

/-- A manual reset that begins in the first scene is put on record, and a fault leaves it in the
second. -/
structure LeftAt (t s : Scene σ Watch) : Prop where
  takes : t.around.journal.TakesRecords
  left : ∃ fault, w.resetManually.run.run t = (.error fault, s)

/-- A suspension has lasted until the second scene, or a manual reset is left in it. -/
def LastsOrLeft (s₀ s : Scene σ Watch) : Prop := s₀.Lasts s ∨ ∃ t, s₀.Lasts t ∧ w.LeftAt t s

variable {w}

/-- Where a manual reset is left, polling stays suspended unless a request has come back in its
course. -/
lemma LeftAt.visits_paused {t s : Scene σ Watch} (h : w.LeftAt t s) :
    t.engine.visits <+: s.engine.visits ∧
      (s.isPaused = true ↔ s.engine.requests = t.engine.requests) := by
  obtain ⟨begun, hengine, hpaused, hrun⟩ := exists_begun (w := w) h.takes
  obtain ⟨fault, hleft⟩ := h.left
  have hlasts := ends_finishReset (w := w) begun (.refl begun)
  rw [← hrun, hleft] at hlasts
  rw [← hengine]
  exact ⟨hlasts.visits, hlasts.paused.trans (and_iff_right hpaused)⟩

/-- Polling is not suspended when a manual reset has come back. A fault may strike before it is put
on record, with nothing done to polling, or leave it after that. -/
lemma ends_resetManually :
    Ends s₀.Lasts w.resetManually (fun _ => s₀.Resumes) fun _ => w.LastsOrLeft s₀ := by
  intro s hs
  by_cases htakes : s.around.journal.TakesRecords
  · obtain ⟨begun, hengine, hpaused, hrun⟩ := exists_begun (w := w) htakes
    have hfinish := ends_finishReset (w := w) begun (.refl begun)
    rw [← hrun] at hfinish
    rcases hreset : w.resetManually.run.run s with ⟨fault | outcome, s'⟩
    · exact .inr ⟨s, hs, htakes, fault, hreset⟩
    · rw [hreset] at hfinish
      exact ⟨hs.visits.trans (hengine ▸ hfinish.visits), hfinish.paused⟩
  · obtain ⟨hrecording, cause, hread⟩ := Journal.not_takesRecords_iff.mp htakes
    rw [resetManually_eq, run_run_bind, leadReset, run_run_bind, run_note]
    simp only [Journal.info, Journal.record_of_unreadable hread hrecording, Except.mapError]
    exact .inl (hs.trans (.of_same rfl rfl))

lemma ends_request :
    Ends s₀.Lasts w.request (fun _ => s₀.Resumes) fun _ => w.LastsOrLeft s₀ :=
  ends_resetManually.bind fun _ _ hs => hs

end Watchdog

end ClipboardWatchdog
