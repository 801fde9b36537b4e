import ClipboardWatchdog.Proofs.Helper.Requests
import ClipboardWatchdog.Proofs.Watchdog.Telling
import ClipboardWatchdog.Proofs.Watchdog.UnreadableClock

/-!
# What the status shows

The copies are counted by the monitor and the resets by the engine; the status shows both, and its
receiver is handed the status. A `Tally` holds the four numbers. `Scene.Stands` says that the engine
is free, that the tally is this one, and that the receiver was last handed the status as it is: it
is what holds between any two acts of a watchdog whose receiver only takes what it is handed.

While the clock can be read, nothing is left behind: the tally only moves to one that it is followed
by (`Tally.Leads`), with each number that was raised shown.
-/

namespace ClipboardWatchdog

variable {σ α : Type}

/-- A reading counts a copy, whose number is the new count, or leaves the count as it is. -/
lemma CopyCounter.count_take (c : CopyCounter) (r : Reading) :
    (∃ copy, (c.take r).1 = .changed copy ∧ copy.number = c.count + 1 ∧
        (c.take r).2.count = c.count + 1) ∨
      (∀ copy, (c.take r).1 ≠ .changed copy) ∧ (c.take r).2.count = c.count := by
  match c.take r, c.taken_take r with
  | _, .failed _ => exact .inr ⟨fun _ h => (by cases h), rfl⟩
  | _, .empty _ => exact .inr ⟨fun _ h => (by cases h), rfl⟩
  | _, .known _ _ _ => exact .inr ⟨fun _ h => (by cases h), rfl⟩
  | _, .copied text _ _ => exact .inl ⟨c.copyOf r text, rfl, rfl, rfl⟩

/-- The copies and resets that were counted, each with the number that the status shows. -/
structure Tally where
  count : ℕ
  copies : ℕ
  runs : ℕ
  resets : ℕ

namespace Tally

/-- The tally with a copy counted that is not shown yet. -/
def counted (t : Tally) : Tally := { t with count := t.count + 1 }

/-- The tally with a reset counted that is not shown yet. -/
def ran (t : Tally) : Tally := { t with runs := t.runs + 1 }

def showCopies (t : Tally) : Tally := { t with copies := t.count }

def showResets (t : Tally) : Tally := { t with resets := t.runs }

/-- Each number of the second tally is that of the first, or it was raised and is shown. -/
structure Leads (t t' : Tally) : Prop where
  copies : t'.count = t.count ∧ t'.copies = t.copies ∨ t.count < t'.count ∧ t'.copies = t'.count
  resets : t'.runs = t.runs ∧ t'.resets = t.resets ∨ t.runs < t'.runs ∧ t'.resets = t'.runs

namespace Leads

protected lemma refl (t : Tally) : t.Leads t := ⟨.inl ⟨rfl, rfl⟩, .inl ⟨rfl, rfl⟩⟩

protected lemma trans {t t' t'' : Tally} (h : t.Leads t') (h' : t'.Leads t'') : t.Leads t'' where
  copies := by
    have := h.copies
    have := h'.copies
    omega
  resets := by
    have := h.resets
    have := h'.resets
    omega

lemma copied (t : Tally) : t.Leads t.counted.showCopies :=
  ⟨.inr ⟨Nat.lt_succ_self _, rfl⟩, .inl ⟨rfl, rfl⟩⟩

lemma reset (t : Tally) : t.Leads t.ran.showResets :=
  ⟨.inl ⟨rfl, rfl⟩, .inr ⟨Nat.lt_succ_self _, rfl⟩⟩

end Leads

end Tally

/-- The last thing that the receiver was handed, if there was one, is the status as it is. -/
def Watch.IsTold (w : Watch) : Prop := ∀ d ∈ w.deliveries.getLast?, d.text = w.status.text

/-- The part of a watch in which a tally stands, at the time that a clock shows. -/
structure Watch.Stands (c : Clock) (t : Tally) (w : Watch) : Prop where
  clock : w.journal.clock = c
  takes : w.journal.TakesRecords
  count : w.monitor.counter.count = t.count
  copies : w.status.copies = t.copies
  resets : w.status.resets = t.resets
  told : w.IsTold

/-- The engine is free, the tally is this one, and the receiver was told, at the time that a clock
shows. -/
structure Scene.Stands (c : Clock) (t : Tally) (s : Scene σ Watch) : Prop where
  free : s.engine.busy = false
  runs : s.engine.runs = t.runs
  watch : s.around.Stands c t

variable {c : Clock} {t : Tally}

namespace Watch.Stands

variable {w : Watch}

lemma record (h : w.Stands c t) (category : Option Category) (message : String) :
    ({ w with journal := (w.journal.record category message).2 } : Watch).Stands c t where
  clock := (Journal.clock_record _ _ _).trans h.clock
  takes := Journal.takesRecords_record h.takes category message
  count := h.count
  copies := h.copies
  resets := h.resets
  told := h.told

lemma monitor (h : w.Stands c t) {m : Monitor} (hm : m.counter = w.monitor.counter) :
    ({ w with monitor := m } : Watch).Stands c t where
  clock := h.clock
  takes := h.takes
  count := (congrArg CopyCounter.count hm).trans h.count
  copies := h.copies
  resets := h.resets
  told := h.told

end Watch.Stands

/-- The clock breaks off the work, and the tally stands as it is. -/
def Stalls (c : Clock) (t : Tally) (fault : Fault) (s : Scene σ Watch) : Prop :=
  s.Stands c t ∧ ∃ cause, c.read = .error cause ∧ fault = .clock cause

namespace Ends

/-! ### Single acts -/

lemma stands_note (category : Option Category) (message : String) :
    Ends (Scene.Stands c t) (Work.note (·.record category message) : Work σ Unit)
      (fun _ => Scene.Stands c t) fun _ _ => False := by
  intro s hs
  rw [run_note, Journal.record_fst_of_takesRecords hs.watch.takes]
  exact ⟨hs.free, hs.runs, hs.watch.record category message⟩

lemma stands_onMonitor (f : Monitor → Monitor) (hf : ∀ m, (f m).counter = m.counter) :
    Ends (Scene.Stands c t) (Work.onMonitor f : Work σ Unit) (fun _ => Scene.Stands c t)
      fun _ _ => False :=
  fun _ hs => ⟨hs.free, hs.runs, hs.watch.monitor (hf _)⟩

lemma stands_clockText :
    Ends (Scene.Stands c t) (Work.clockText : Work σ String) (fun _ => Scene.Stands c t)
      (Stalls c t) := by
  intro s hs
  rw [Watchdog.run_clockText, hs.watch.clock]
  cases hread : c.read with
  | error cause => exact ⟨hs, cause, hread, rfl⟩
  | ok now => exact hs

variable {w : Watchdog σ} (hw : w.receiver = some fun _ => none)

include hw

/-- Changing the status and handing it on. -/
lemma stands_display {t' : Tally} {f : Status → Status}
    (hf : ∀ st, st.copies = t.copies → st.resets = t.resets →
      (f st).copies = t'.copies ∧ (f st).resets = t'.resets)
    (hcount : t'.count = t.count) (hruns : t'.runs = t.runs) :
    Ends (Scene.Stands c t) (do Work.onStatus f; w.emit) (fun _ => Scene.Stands c t')
      fun _ _ => False := by
  intro s hs
  obtain ⟨hcopies, hresets⟩ := hf s.around.status hs.watch.copies hs.watch.resets
  rw [run_run_bind, Watchdog.emit, hw]
  refine ⟨hs.free, hs.runs.trans hruns.symm, hs.watch.clock, hs.watch.takes,
    hs.watch.count.trans hcount.symm, hcopies, hresets, ?_⟩
  intro d hd
  obtain rfl := Option.some.inj (List.getLast?_concat.symm.trans hd)
  rfl

lemma stands_say (message : String) :
    Ends (Scene.Stands c t) (w.say message) (fun _ => Scene.Stands c t) fun _ _ => False :=
  stands_display hw (fun _ h h' => ⟨h, h'⟩) rfl rfl

lemma stands_showRuns :
    Ends (Scene.Stands c t) w.showRuns (fun _ => Scene.Stands c t.showResets) fun _ _ => False := by
  have hruns : Ends (Scene.Stands c t) (Work.runs : Work σ ℕ)
      (fun n s => n = t.runs ∧ Scene.Stands c t s) fun _ _ => False :=
    fun _ hs => ⟨hs.runs, hs⟩
  have hshow : Ends (Scene.Stands c t) (do
      Work.onStatus fun s => { s with resets := t.runs }
      w.emit) (fun _ => Scene.Stands c t.showResets) fun _ _ => False :=
    stands_display hw (fun _ h _ => ⟨h, rfl⟩) rfl rfl
  refine hruns.bind ?_
  rintro n s ⟨rfl, hs⟩
  exact hshow s hs

/-! ### Resets -/

/-- Telling of a reset that was completed shows the number of resets, unless there is no time of
day for the message. -/
lemma stands_tell_completed (reason : Reason) (report : Report) :
    Ends (Scene.Stands c t) (w.tell reason (.completed report))
      (fun _ => Scene.Stands c t.showResets) (Stalls c t) := by
  have hnote (category : Option Category) (message : String) : Ends (Scene.Stands c t)
      (Work.note (·.record category message) : Work σ Unit) (fun _ => Scene.Stands c t)
      (Stalls c t) := (stands_note _ _).of_sure
  have hsay (message : String) : Ends (Scene.Stands c t) (w.say message)
      (fun _ => Scene.Stands c t) (Stalls c t) := (stands_say hw _).of_sure
  have hcount : Ends (Scene.Stands c t) w.showRuns (fun _ => Scene.Stands c t.showResets)
      (Stalls c t) := (stands_showRuns hw).of_sure
  refine (Ends.forM (fun _ => hnote _ _) _).bind fun _ => ?_
  split
  · exact (hnote _ _).bind fun _ => (hnote _ _).bind fun _ => stands_clockText.bind fun _ =>
      (hsay _).bind fun _ => hcount
  · exact (hnote _ _).bind fun _ => (hsay _).bind fun _ => hcount

lemma stands_tell_failed (reason : Reason) (message : String) :
    Ends (Scene.Stands c t) (w.tell reason (.failed message)) (fun _ => Scene.Stands c t)
      fun _ _ => False :=
  (stands_note _ _).bind fun _ => stands_say hw _

omit hw in
/-- A reset is completed and counted, or it has failed and nothing has changed. -/
lemma stands_reset (helper : String) (reason : Reason) :
    Ends (Scene.Stands c t) (liftM (reset w.host Watch.dropManual helper reason) : Work σ Outcome)
      (fun outcome s =>
        (∃ report, outcome = .completed report) ∧ s.Stands c t.ran ∨
          (∃ message, outcome = .failed message) ∧ s.Stands c t)
      fun _ _ => False := by
  have hdrop : Keeps (Watch.Stands c t) Watch.dropManual :=
    (Ends.dropManual (fun _ h => h.takes) (fun _ _ _ h => h.record _ _)
      fun _ _ h => h.monitor rfl).of_sure.keeps
  intro s hs
  have hwatch := Keeps.reset hdrop w.host helper reason s hs.watch
  obtain ⟨hfree, hcounted⟩ := settles_reset w.host Watch.dropManual helper reason hs.free
  rw [run_run_lift] at hwatch ⊢
  rcases hcounted with ⟨hcompleted, hruns⟩ | ⟨hfailed, hruns⟩
  · have hran : Watch.Stands c t.ran _ := ⟨hwatch.clock, hwatch.takes, hwatch.count, hwatch.copies,
      hwatch.resets, hwatch.told⟩
    exact .inl ⟨hcompleted, hfree, hruns.trans (congrArg (· + 1) hs.runs), hran⟩
  · exact .inr ⟨hfailed, hfree, hruns.trans hs.runs, hwatch⟩

/-- A reset is counted and shown, or it has failed and nothing has changed. If telling of it is
broken off, it was counted and is not shown. -/
lemma stands_remediate (reason : Reason) :
    Ends (Scene.Stands c t) (w.remediate reason)
      (fun _ s => s.Stands c t.ran.showResets ∨ s.Stands c t) (Stalls c t.ran) := by
  rw [Watchdog.remediate_eq]
  refine (stands_reset w.config.helper reason).of_sure.bind fun outcome s hs => ?_
  rcases hs with ⟨⟨report, rfl⟩, hs⟩ | ⟨⟨message, rfl⟩, hs⟩
  · exact ((stands_tell_completed hw reason report).bind fun _ => .pure fun _ => .inl) s hs
  · exact ((stands_tell_failed hw reason message).of_sure.bind fun _ => .pure fun _ => .inr) s hs

lemma stands_resetManually :
    Ends (Scene.Stands c t) w.resetManually
      (fun _ s => s.Stands c t.ran.showResets ∨ s.Stands c t) (Stalls c t.ran) := by
  have hresume (outcome : Outcome) (u : Tally) : Ends (Scene.Stands c u)
      (do Work.onMonitor (·.resume); return outcome : Work σ Outcome) (fun _ => Scene.Stands c u)
      (Stalls c t.ran) :=
    (stands_onMonitor (·.resume) fun _ => rfl).of_sure.bind fun _ => .pure fun _ hs => hs
  refine (stands_note _ _).of_sure.bind fun _ => ?_
  refine (stands_onMonitor (·.pause) fun _ => rfl).of_sure.bind fun _ => ?_
  exact (stands_remediate hw .manual).bind fun outcome => (hresume outcome _).or (hresume outcome _)

end Ends

/-! ### While the clock can be read -/

/-- A tally stands that the first one leads to. -/
def Scene.StandsAfter (c : Clock) (t : Tally) (s : Scene σ Watch) : Prop :=
  ∃ t', t.Leads t' ∧ s.Stands c t'

lemma unvisited_standsAfter : Unvisited (Scene.StandsAfter (σ := σ) c t) where
  withHost _ _ := fun ⟨t', ht, hs⟩ => ⟨t', ht, hs.free, hs.runs, hs.watch⟩
  visited _ _ := fun ⟨t', ht, hs⟩ => ⟨t', ht, hs.free, hs.runs, hs.watch⟩

lemma Scene.Stands.after {s : Scene σ Watch} (h : s.Stands c t) : s.StandsAfter c t :=
  ⟨t, .refl t, h⟩

namespace Watch.Stands

variable {w : Watch} {now : Moment}

/-- With a clock that can be read, all that is done to the journal is as good as a record. -/
lemma journal (h : w.Stands c t) (hread : c.read = .ok now) {j : Journal}
    (hj : j.clock = w.journal.clock) : ({ w with journal := j } : Watch).Stands c t where
  clock := hj.trans h.clock
  takes := Journal.takesRecords_of_read ((congrArg Clock.read (hj.trans h.clock)).trans hread)
  count := h.count
  copies := h.copies
  resets := h.resets
  told := h.told

end Watch.Stands

namespace Keeps

/-- Work leads on if it does from each tally that it may find. -/
lemma standsAfter {a : Work σ α}
    (h : ∀ u, Ends (Scene.Stands c u) a (fun _ => Scene.StandsAfter c u)
      fun _ => Scene.StandsAfter c u) : Keeps (Scene.StandsAfter c t) a := by
  rintro s ⟨u, hu, hs⟩
  have hs' := h u s hs
  revert hs'
  rcases a.run.run s with ⟨fault | x, s'⟩ <;>
    exact fun ⟨v, hv, hs'⟩ => ⟨v, hu.trans hv, hs'⟩

lemma standsAfter_of_stands {a : Work σ α} (h : ∀ u, Keeps (Scene.Stands c u) a) :
    Keeps (Scene.StandsAfter c t) a :=
  standsAfter fun u => (Ends.of_keeps (h u)).imp (fun _ => id) (fun _ _ hs => hs.after)
    fun _ _ hs => hs.after

variable {now : Moment} (hread : c.read = .ok now) {w : Watchdog σ}
  (hw : w.receiver = some fun _ => none)

include hread hw

/-- Turning the mode on or off touches no number. -/
lemma modeFree_standsAfter : w.ModeFree (Scene.StandsAfter c t) where
  note {α f} hf := by
    refine standsAfter_of_stands fun u s hs => ?_
    rw [run_note]
    exact ⟨hs.free, hs.runs, hs.watch.journal hread (hf _)⟩
  onJournal hf := standsAfter_of_stands fun _ _ hs =>
    ⟨hs.free, hs.runs, hs.watch.journal hread (hf _)⟩
  showMode diagnostics := standsAfter_of_stands fun u =>
    have hdisplay : Ends (Scene.Stands c u) (do
        Work.onStatus fun st => { st with diagnostics }
        w.emit) (fun _ => Scene.Stands c u) fun _ _ => False :=
      .stands_display hw (fun _ h h' => ⟨h, h'⟩) rfl rfl
    hdisplay.of_sure.keeps

lemma standsAfter_record (category : Option Category) (message : String) :
    Keeps (Scene.StandsAfter c t) (Work.note (·.record category message) : Work σ Unit) :=
  (modeFree_standsAfter hread hw).keeps_record category message

omit hw in
/-- A reset that is counted leads on, since the clock lets it be shown. -/
lemma standsAfter_of_ran {a : Work σ α} (h : ∀ u, Ends (Scene.Stands c u) a
    (fun _ s => s.Stands c u.ran.showResets ∨ s.Stands c u) (Stalls c u.ran)) :
    Keeps (Scene.StandsAfter c t) a := by
  refine standsAfter fun u => (h u).imp (fun _ => id) ?_ ?_
  · rintro _ s (hs | hs)
    · exact ⟨_, .reset u, hs⟩
    · exact hs.after
  · rintro _ s ⟨-, cause, hcause, -⟩
    cases hread.symm.trans hcause

lemma standsAfter_remediate (reason : Reason) :
    Keeps (Scene.StandsAfter c t) (w.remediate reason) :=
  standsAfter_of_ran hread fun _ => Ends.stands_remediate hw reason

lemma standsAfter_resetManually : Keeps (Scene.StandsAfter c t) w.resetManually :=
  standsAfter_of_ran hread fun _ => Ends.stands_resetManually hw

/-- The host may ask for resets in the middle of a call, and break it off. -/
lemma standsAfter_recordHealth : Keeps (Scene.StandsAfter c t) w.recordHealth := by
  have hcall (call : Call) : Keeps (Scene.StandsAfter c t) (w.call call) :=
    .makeCall unvisited_standsAfter
      ((standsAfter_resetManually hread hw).bind fun _ => Keeps.get.bind fun _ => .pure _) w.host _
  exact (Keeps.procedure hcall _).bind fun _ =>
    (standsAfter_record hread hw _ _).bind fun _ => .pure _

/-! ### Polling -/

lemma standsAfter_checkHelper (copy : Copy) :
    Keeps (Scene.StandsAfter c t) (w.checkHelper copy) := by
  refine (standsAfter_recordHealth hread hw).bind fun health => .ite ?_ (.ite ?_ (.pure _))
  · exact (standsAfter_record hread hw _ _).bind fun _ => .pure _
  · exact (standsAfter_record hread hw _ _).bind fun _ => .pure _

lemma standsAfter_follow (reason? : Option Reason) :
    Keeps (Scene.StandsAfter c t) (w.follow reason?) := by
  cases reason? with
  | none => exact .pure _
  | some reason => exact (standsAfter_remediate hread hw reason).bind fun _ => .pure _

end Keeps

namespace Ends

variable {now : Moment} (hread : c.read = .ok now) {w : Watchdog σ}

include hread

/-- A tick counts a copy, or it leaves the tally as it is. -/
lemma stands_tick (o : Observation) :
    Ends (Scene.Stands c t) (w.tick o)
      (fun poll s =>
        (∃ copy, poll.outcome = .changed copy ∧ copy.number = t.counted.count) ∧
            s.Stands c t.counted ∨
          (∀ copy, poll.outcome ≠ .changed copy) ∧ s.Stands c t)
      fun _ _ => False := by
  intro s hs
  have hcount := hs.watch.count
  obtain ⟨poll, hpoll, houtcome⟩ := Poll.exists_ofOutcome_eq_ok
    ((congrArg Clock.read hs.watch.clock).trans hread)
    (s.around.monitor.counter.take (w.reading o)).1
  rw [Watchdog.run_tick_told, hpoll]
  rcases s.around.monitor.counter.count_take (w.reading o) with
    ⟨copy, hcopy, hnumber, hnext⟩ | ⟨hnone, hnext⟩
  · refine .inl ⟨⟨copy, houtcome.trans hcopy, ?_⟩, hs.free, hs.runs, hs.watch.clock,
      hs.watch.takes, ?_, hs.watch.copies, hs.watch.resets, hs.watch.told⟩
    · exact hnumber.trans (congrArg (· + 1) hcount)
    · exact hnext.trans (congrArg (· + 1) hcount)
  · refine .inr ⟨fun copy h => hnone copy (houtcome.symm.trans h), hs.free, hs.runs,
      hs.watch.clock, hs.watch.takes, hnext.trans hcount, hs.watch.copies, hs.watch.resets,
      hs.watch.told⟩

variable (hw : w.receiver = some fun _ => none)

include hw

omit hread in
lemma stands_showCopy {copy : Copy} (hcopy : copy.number = t.count) :
    Ends (Scene.Stands c t) (w.showCopy copy) (fun _ => Scene.Stands c t.showCopies)
      fun _ _ => False :=
  stands_display hw (fun _ _ h => ⟨hcopy, h⟩) rfl rfl

/-- A copy that was counted is shown before anything else is done about it. -/
lemma stands_lead_changed {poll : Poll} {copy : Copy} (hpoll : poll.outcome = .changed copy)
    (hcopy : copy.number = t.counted.count) :
    Ends (Scene.Stands c t.counted) (w.lead poll) (fun _ => Scene.StandsAfter c t)
      fun _ => Scene.StandsAfter c t := by
  have hshow : Ends (Scene.Stands c t.counted) (w.showCopy copy)
      (fun _ => Scene.Stands c t.counted.showCopies) fun _ => Scene.StandsAfter c t :=
    (stands_showCopy hw hcopy).of_sure
  have hcheck : Ends (Scene.Stands c t.counted.showCopies) (w.checkHelper copy)
      (fun _ => Scene.StandsAfter c t) fun _ => Scene.StandsAfter c t :=
    (of_keeps (Keeps.standsAfter_checkHelper hread hw copy)).imp
      (fun _ hs => ⟨_, .copied t, hs⟩) (fun _ _ => id) fun _ _ => id
  simp only [Watchdog.lead, hpoll]
  refine (stands_note _ _).of_sure.bind fun _ => .ite ?_ ?_
  · exact (stands_note _ _).of_sure.bind fun _ => hshow.bind fun _ => hcheck
  · exact hshow.bind fun _ => hcheck

omit hread in
/-- Without a copy, a message is all that there may be to show. -/
lemma stands_lead {poll : Poll} (hpoll : ∀ copy, poll.outcome ≠ .changed copy) :
    Ends (Scene.Stands c t) (w.lead poll) (fun _ => Scene.Stands c t) (Stalls c t) := by
  cases houtcome : poll.outcome with
  | inaccessible =>
    simp only [Watchdog.lead, houtcome]
    exact (stands_note _ _).of_sure.bind fun _ => stands_clockText.bind fun _ =>
      (stands_say hw _).of_sure.bind fun _ => .pure fun _ hs => hs
  | noText =>
    simp only [Watchdog.lead, houtcome]
    exact .pure fun _ hs => hs
  | unchanged =>
    simp only [Watchdog.lead, houtcome]
    exact .pure fun _ hs => hs
  | changed copy => exact absurd houtcome (hpoll copy)

end Ends

lemma Keeps.standsAfter_pollOnce {now : Moment} (hread : c.read = .ok now) {w : Watchdog σ}
    (hw : w.receiver = some fun _ => none) (o : Observation) :
    Keeps (Scene.StandsAfter c t) (w.pollOnce o) := by
  have hlead : Keeps (Scene.StandsAfter c t) (w.leadPoll o) := by
    refine .standsAfter fun u => (Ends.stands_tick hread o).of_sure.bind fun poll s hs => ?_
    rcases hs with ⟨⟨copy, houtcome, hnumber⟩, hs⟩ | ⟨hnone, hs⟩
    · exact Ends.stands_lead_changed hread hw houtcome hnumber s hs
    · refine (Ends.stands_lead hw hnone).imp (fun _ => id) (fun _ _ hs => hs.after) ?_ s hs
      exact fun _ _ hs => hs.1.after
  rw [Watchdog.pollOnce_eq]
  exact hlead.bind fun _ => standsAfter_follow hread hw _

end ClipboardWatchdog
