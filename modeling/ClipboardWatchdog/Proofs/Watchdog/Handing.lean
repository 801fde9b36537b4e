import ClipboardWatchdog.Proofs.Watchdog.Mirroring
import ClipboardWatchdog.Proofs.Watchdog.Pausing
import ClipboardWatchdog.Proofs.Watchdog.Upholding

/-!
# What the receiver is handed

Each time that a watchdog hands its status over, the receiver can also read what was counted by
then. A `Deed` is what a watchdog does to the two at once: it hands the status over, or it counts a
copy or a reset and shows it, or fails to. All that the receiver was handed in a run is told by a
row of deeds, one after the other: `accounted_served`.
-/

namespace ClipboardWatchdog

variable {σ α : Type}

/-- The receiver was handed a status with what this tally shows, and could read what it counts. -/
structure Delivery.Shows (d : Delivery) (t : Tally) : Prop where
  copies : d.copies = t.count
  resets : d.resets = t.runs
  text : ∃ status : Status, d.text = status.text ∧ status.copies = t.copies ∧
    status.resets = t.resets

/-- What a watchdog counts and hands over in one go. -/
inductive Deed
  /-- The status is handed over. -/
  | handed (d : Delivery)
  /-- A copy is counted and shown. -/
  | copied (d : Delivery)
  /-- A copy is counted and not shown. -/
  | missed
  /-- A reset has come to its end. The message about it is taken, and the new count shown. -/
  | told (message count : Delivery)
  /-- A reset has come to its end, and the receiver breaks down at the message. -/
  | cut (message : Delivery)
  /-- A reset has come to its end, and there is no message about it. -/
  | untold

namespace Deed

def deliveries : Deed → List Delivery
  | handed d => [d]
  | copied d => [d]
  | missed => []
  | told message count => [message, count]
  | cut message => [message]
  | untold => []

/-- The tally after a deed. -/
def move (t : Tally) : Deed → Tally
  | handed _ => t
  | copied _ => t.counted.showCopies
  | missed => t.counted
  | told _ _ => t.ran.showResets
  | cut _ => t.ran
  | untold => t.ran

/-- What it takes for a deed to be done from a tally on: each delivery shows the tally at the time,
the message is taken or not, and for want of a clock that can be read a copy or a reset is left at
that. -/
def Fits (receive : Delivery → Option Fault) (unreadable : Prop) (t : Tally) : Deed → Prop
  | handed d => d.Shows t
  | copied d => d.Shows t.counted.showCopies
  | missed => unreadable
  | told message count => message.Shows t.ran ∧ receive message = none ∧
      count.Shows t.ran.showResets
  | cut message => message.Shows t.ran ∧ receive message ≠ none
  | untold => unreadable

end Deed

/-- The tally after a row of deeds. -/
def Tally.after (row : List Deed) : Tally := row.foldl Deed.move ⟨0, 0, 0, 0⟩

lemma Tally.after_concat (row : List Deed) (deed : Deed) :
    after (row ++ [deed]) = deed.move (after row) := by
  simp [after]

/-- Each deed of a row could be done when it was. -/
def Fitting (receive : Delivery → Option Fault) (unreadable : Prop) (row : List Deed) : Prop :=
  ∀ front deed back, row = front ++ deed :: back →
    deed.Fits receive unreadable (Tally.after front)

lemma fitting_concat {receive : Delivery → Option Fault} {unreadable : Prop} {row : List Deed}
    {deed : Deed} (hrow : Fitting receive unreadable row)
    (hdeed : deed.Fits receive unreadable (Tally.after row)) :
    Fitting receive unreadable (row ++ [deed]) := by
  unfold Fitting at hrow ⊢
  exact forall_split_concat_iff.mpr ⟨hdeed, hrow⟩

/-- The part of a watch in which a tally is displayed, after these deliveries and at the time that a
clock shows. -/
structure Watch.Displays (c : Clock) (t : Tally) (ds : List Delivery) (w : Watch) : Prop where
  clock : w.journal.clock = c
  count : w.monitor.counter.count = t.count
  copies : w.status.copies = t.copies
  resets : w.status.resets = t.resets
  deliveries : w.deliveries = ds

/-- The engine is free and the tally is displayed. -/
structure Scene.Displays (c : Clock) (t : Tally) (ds : List Delivery) (s : Scene σ Watch) :
    Prop where
  free : s.engine.busy = false
  runs : s.engine.runs = t.runs
  watch : s.around.Displays c t ds

variable {c : Clock} {t t' : Tally} {ds : List Delivery} {s : Scene σ Watch}

namespace Watch.Displays

variable {w : Watch}

lemma journal (h : w.Displays c t ds) {j : Journal} (hj : j.clock = w.journal.clock) :
    ({ w with journal := j } : Watch).Displays c t ds where
  clock := hj.trans h.clock
  count := h.count
  copies := h.copies
  resets := h.resets
  deliveries := h.deliveries

lemma monitor (h : w.Displays c t ds) {m : Monitor} (hm : m.counter.count = t'.count)
    (hcopies : t'.copies = t.copies) (hresets : t'.resets = t.resets) :
    ({ w with monitor := m } : Watch).Displays c t' ds where
  clock := h.clock
  count := hm
  copies := h.copies.trans hcopies.symm
  resets := h.resets.trans hresets.symm
  deliveries := h.deliveries

end Watch.Displays

/-- The status was handed over with this tally, of which the receiver has made what is said. -/
def Hands (made : Delivery → Prop) (c : Clock) (t : Tally) (ds : List Delivery)
    (s : Scene σ Watch) : Prop :=
  ∃ d : Delivery, d.Shows t ∧ made d ∧ s.Displays c t (ds ++ [d])

/-- The clock cannot be read, and the tally is displayed as it is. -/
def Lapses (c : Clock) (t : Tally) (ds : List Delivery) (_ : Fault) (s : Scene σ Watch) : Prop :=
  s.Displays c t ds ∧ ∃ cause, c.read = .error cause

namespace Ends

/-! ### Single acts -/

lemma displays_record (category : Option Category) (message : String) :
    Ends (Scene.Displays c t ds) (Work.note (·.record category message) : Work σ Unit)
      (fun _ => Scene.Displays c t ds) (Lapses c t ds) := by
  intro s hs
  have hs' : Scene.Displays c t ds { s with
      around := { s.around with journal := (s.around.journal.record category message).2 } } :=
    ⟨hs.free, hs.runs, hs.watch.journal (Journal.clock_record _ _ _)⟩
  rw [run_note]
  by_cases htakes : s.around.journal.TakesRecords
  · rw [Journal.record_fst_of_takesRecords htakes]
    exact hs'
  · obtain ⟨hrecording, cause, hcause⟩ := Journal.not_takesRecords_iff.mp htakes
    rw [Journal.record_of_unreadable hcause hrecording] at hs' ⊢
    exact ⟨hs', cause, hs.watch.clock ▸ hcause⟩

lemma displays_clockText :
    Ends (Scene.Displays c t ds) (Work.clockText : Work σ String)
      (fun _ => Scene.Displays c t ds) (Lapses c t ds) := by
  intro s hs
  rw [Watchdog.run_clockText, hs.watch.clock]
  cases hread : c.read with
  | error cause => exact ⟨hs, cause, hread⟩
  | ok now => exact hs

/-- A reset is completed and counted, or it has failed and nothing has changed. -/
lemma displays_reset (host : Host σ) (helper : String) (reason : Reason) :
    Ends (Scene.Displays c t ds)
      (liftM (reset host Watch.dropManual helper reason) : Work σ Outcome)
      (fun outcome s =>
        (∃ report, outcome = .completed report) ∧ s.Displays c t.ran ds ∨
          (∃ message, outcome = .failed message) ∧ s.Displays c t ds)
      fun _ _ => False := by
  have note (message : String) : Keeps (Watch.Displays c t ds) (Watch.note (·.info message)) :=
    .watchNote fun v hv => hv.journal (Journal.clock_record v.journal (some .info) message)
  have switch (f : Monitor → Monitor) (hf : ∀ m, (f m).counter = m.counter) :
      Keeps (Watch.Displays c t ds) (Watch.onMonitor f) :=
    .modify fun v hv => hv.monitor ((congrArg CopyCounter.count (hf v.monitor)).trans hv.count)
      rfl rfl
  have hdrop : Keeps (Watch.Displays c t ds) Watch.dropManual :=
    (note _).bind fun _ => (switch (·.pause) fun _ => rfl).bind fun _ => (note _).bind fun _ =>
      switch (·.resume) fun _ => rfl
  intro s hs
  have hwatch := Keeps.reset hdrop host helper reason s hs.watch
  obtain ⟨hfree, hcounted⟩ := settles_reset host Watch.dropManual helper reason hs.free
  rw [run_run_lift] at hwatch ⊢
  rcases hcounted with ⟨hcompleted, hruns⟩ | ⟨hfailed, hruns⟩
  · have hran : Watch.Displays c t.ran ds _ :=
      ⟨hwatch.clock, hwatch.count, hwatch.copies, hwatch.resets, hwatch.deliveries⟩
    exact .inl ⟨hcompleted, hfree, hruns.trans (congrArg (· + 1) hs.runs), hran⟩
  · exact .inr ⟨hfailed, hfree, hruns.trans hs.runs, hwatch⟩

/-- A tick counts a copy, for which it needs to read the clock, or it leaves the tally as it is. -/
lemma displays_tick {w : Watchdog σ} (o : Observation) :
    Ends (Scene.Displays c t ds) (w.tick o)
      (fun poll s =>
        (∃ copy, poll.outcome = .changed copy ∧ copy.number = t.counted.count) ∧
            (∃ now, c.read = .ok now) ∧ s.Displays c t.counted ds ∨
          (∀ copy, poll.outcome ≠ .changed copy) ∧ s.Displays c t ds)
      (Lapses c t.counted ds) := by
  intro s hs
  have hcount := hs.watch.count
  rw [Watchdog.run_tick, hs.watch.clock]
  rcases s.around.monitor.counter.count_take (w.reading o) with
    ⟨copy, hcopy, hnumber, hnext⟩ | ⟨hnone, hnext⟩
  · have hs' : Scene.Displays c t.counted ds { s with around := { s.around with monitor :=
        { s.around.monitor with
          counter := (s.around.monitor.counter.take (w.reading o)).2 } } } :=
      ⟨hs.free, hs.runs, hs.watch.monitor (hnext.trans (congrArg (· + 1) hcount)) rfl rfl⟩
    rw [hcopy]
    cases hread : c.read with
    | error cause =>
      simp only [Poll.ofOutcome, hread]
      exact ⟨hs', cause, hread⟩
    | ok now =>
      simp only [Poll.ofOutcome, hread]
      exact .inl ⟨⟨copy, rfl, hnumber.trans (congrArg (· + 1) hcount)⟩, ⟨now, rfl⟩, hs'⟩
  · have hs' : Scene.Displays c t ds { s with around := { s.around with monitor :=
        { s.around.monitor with
          counter := (s.around.monitor.counter.take (w.reading o)).2 } } } :=
      ⟨hs.free, hs.runs, hs.watch.monitor (hnext.trans hcount) rfl rfl⟩
    cases houtcome : (s.around.monitor.counter.take (w.reading o)).1 with
    | changed copy => exact absurd houtcome (hnone copy)
    | _ => exact .inr ⟨fun _ h => (by cases h), hs'⟩

variable {w : Watchdog σ} {receive : Delivery → Option Fault} (hw : w.receiver = some receive)

include hw

/-- The receiver is handed the status, and takes it or breaks down. -/
lemma displays_emit :
    Ends (Scene.Displays c t ds) w.emit (fun _ => Hands (receive · = none) c t ds)
      fun _ => Hands (receive · ≠ none) c t ds := by
  intro s hs
  have hshows : s.delivery.Shows t :=
    ⟨hs.watch.count, hs.runs, s.around.status, rfl, hs.watch.copies, hs.watch.resets⟩
  have hs' : Scene.Displays c t (ds ++ [s.delivery]) { s with
      around := { s.around with deliveries := s.around.deliveries ++ [s.delivery] } } :=
    ⟨hs.free, hs.runs, hs.watch.clock, hs.watch.count, hs.watch.copies, hs.watch.resets,
      congrArg (· ++ [s.delivery]) hs.watch.deliveries⟩
  rw [Watchdog.run_emit, hw]
  dsimp only
  cases hreceive : receive s.delivery with
  | none => exact ⟨_, hshows, hreceive, hs'⟩
  | some fault => exact ⟨_, hshows, by simp [hreceive], hs'⟩

/-- Changing the status and handing it over. -/
lemma displays_hand (t' : Tally) {f : Status → Status}
    (hf : ∀ st, st.copies = t.copies → st.resets = t.resets →
      (f st).copies = t'.copies ∧ (f st).resets = t'.resets)
    (hcount : t'.count = t.count) (hruns : t'.runs = t.runs) :
    Ends (Scene.Displays c t ds) (do Work.onStatus f; w.emit)
      (fun _ => Hands (receive · = none) c t' ds) fun _ => Hands (receive · ≠ none) c t' ds := by
  refine Ends.bind (Q := fun _ => Scene.Displays c t' ds) (fun s hs => ?_) fun _ =>
    displays_emit hw
  obtain ⟨hcopies, hresets⟩ := hf s.around.status hs.watch.copies hs.watch.resets
  exact ⟨hs.free, hs.runs.trans hruns.symm, hs.watch.clock, hs.watch.count.trans hcount.symm,
    hcopies, hresets, hs.watch.deliveries⟩

lemma displays_say (message : String) :
    Ends (Scene.Displays c t ds) (w.say message) (fun _ => Hands (receive · = none) c t ds)
      fun _ => Hands (receive · ≠ none) c t ds :=
  displays_hand hw t (fun _ h h' => ⟨h, h'⟩) rfl rfl

lemma displays_showRuns :
    Ends (Scene.Displays c t ds) w.showRuns
      (fun _ => Hands (receive · = none) c t.showResets ds)
      fun _ => Hands (receive · ≠ none) c t.showResets ds := by
  intro s hs
  have hshow : Ends (Scene.Displays c t ds)
      (do Work.onStatus fun st => { st with resets := t.runs }; w.emit) _ _ :=
    displays_hand hw t.showResets (fun _ h _ => ⟨h, rfl⟩) rfl rfl
  have hrun : w.showRuns.run.run s =
      (do Work.onStatus fun st => { st with resets := s.engine.runs }; w.emit).run.run s := rfl
  rw [hrun, hs.runs]
  exact hshow s hs

end Ends

/-! ### Deeds -/

/-- From a scene with this tally and these deliveries, nothing was done that shows, or a deed. -/
def Does (receive : Delivery → Option Fault) (unreadable : Prop) (c : Clock) (t : Tally)
    (ds : List Delivery) (s : Scene σ Watch) : Prop :=
  s.Displays c t ds ∨ ∃ deed : Deed, deed.Fits receive unreadable t ∧
    s.Displays c (deed.move t) (ds ++ deed.deliveries)

namespace Ends

variable {receive : Delivery → Option Fault} {unreadable : Prop}
  (hc : ∀ cause, c.read = .error cause → unreadable)

/-- To hand the status over as it is and to do nothing else is a deed. -/
lemma does_of_hands {a : Work σ α} (h : Ends (Scene.Displays c t ds) a
      (fun _ => Hands (receive · = none) c t ds) fun _ => Hands (receive · ≠ none) c t ds) :
    Ends (Scene.Displays c t ds) a (fun _ => Does receive unreadable c t ds)
      fun _ => Does receive unreadable c t ds :=
  h.imp (fun _ => id) (fun _ _ ⟨d, hd, _, hs⟩ => .inr ⟨.handed d, hd, hs⟩)
    fun _ _ ⟨d, hd, _, hs⟩ => .inr ⟨.handed d, hd, hs⟩

/-- Where an act lapses, nothing was done that shows. -/
lemma does_of_lapses {a : Work σ α} {Q : α → Scene σ Watch → Prop}
    (h : Ends (Scene.Displays c t ds) a Q (Lapses c t ds)) :
    Ends (Scene.Displays c t ds) a Q fun _ => Does receive unreadable c t ds :=
  h.imp (fun _ => id) (fun _ _ => id) fun _ _ hs => .inl hs.1

lemma does_pure (x : α) :
    Ends (Does receive unreadable c t ds) (pure x : Work σ α)
      (fun _ => Does receive unreadable c t ds) fun _ => Does receive unreadable c t ds :=
  .pure fun _ hs => hs

variable {w : Watchdog σ} (hw : w.receiver = some receive)

include hw

/-- The message about a reset that has come to its end is handed over, and if it is taken then the
count is. -/
lemma does_sayAndShowRuns (message : String) :
    Ends (Scene.Displays c t.ran ds) (do w.say message; w.showRuns)
      (fun _ => Does receive unreadable c t ds) fun _ => Does receive unreadable c t ds := by
  have hcut (_ : Fault) (s : Scene σ Watch) (h : Hands (receive · ≠ none) c t.ran ds s) :
      Does receive unreadable c t ds s := by
    obtain ⟨d, hd, hrefused, hs⟩ := h
    exact .inr ⟨.cut d, ⟨hd, hrefused⟩, hs⟩
  refine ((displays_say hw message).imp (fun _ => id) (fun _ _ => id) hcut).bind fun _ => ?_
  rintro s ⟨d, hd, htaken, hs⟩
  have htold {made : Delivery → Prop} (s : Scene σ Watch)
      (h : Hands made c t.ran.showResets (ds ++ [d]) s) : Does receive unreadable c t ds s := by
    obtain ⟨d', hd', -, hs⟩ := h
    exact .inr ⟨.told d d', ⟨hd, htaken, hd'⟩, by simpa [Deed.deliveries, Deed.move] using hs⟩
  have hcount := (displays_showRuns (c := c) (t := t.ran) hw).imp (fun _ => id)
    (fun _ => htold) fun _ => htold
  exact hcount s hs

include hc

/-- A reset that has come to its end is told, or telling of it is broken off. -/
lemma does_tell_completed (reason : Reason) (report : Report) :
    Ends (Scene.Displays c t.ran ds) (w.tell reason (.completed report))
      (fun _ => Does receive unreadable c t ds) fun _ => Does receive unreadable c t ds := by
  have huntold {β : Type} {a : Work σ β} {Q : β → Scene σ Watch → Prop}
      (h : Ends (Scene.Displays c t.ran ds) a Q (Lapses c t.ran ds)) :
      Ends (Scene.Displays c t.ran ds) a Q fun _ => Does receive unreadable c t ds := by
    refine h.imp (fun _ => id) (fun _ _ => id) ?_
    rintro _ s ⟨hs, cause, hcause⟩
    exact .inr ⟨.untold, hc cause hcause, by simpa [Deed.deliveries, Deed.move] using hs⟩
  have hnote (category : Option Category) (message : String) : Ends (Scene.Displays c t.ran ds)
      (Work.note (·.record category message) : Work σ Unit) (fun _ => Scene.Displays c t.ran ds)
      fun _ => Does receive unreadable c t ds := huntold (displays_record _ _)
  refine (Ends.forM (fun _ => hnote _ _) _).bind fun _ => ?_
  split
  · refine (hnote _ _).bind fun _ => (hnote _ _).bind fun _ => ?_
    exact (huntold displays_clockText).bind fun _ => does_sayAndShowRuns hw _
  · exact (hnote _ _).bind fun _ => does_sayAndShowRuns hw _

omit hc in
/-- Telling of a reset that has failed hands a message over, unless it is broken off before. -/
lemma does_tell_failed (reason : Reason) (message : String) :
    Ends (Scene.Displays c t ds) (w.tell reason (.failed message))
      (fun _ => Does receive unreadable c t ds) fun _ => Does receive unreadable c t ds :=
  (does_of_lapses (displays_record _ _)).bind fun _ => does_of_hands (displays_say hw _)

lemma does_remediate (reason : Reason) :
    Ends (Scene.Displays c t ds) (w.remediate reason) (fun _ => Does receive unreadable c t ds)
      fun _ => Does receive unreadable c t ds := by
  rw [Watchdog.remediate_eq]
  refine (displays_reset w.host w.config.helper reason).of_sure.bind fun outcome s hs => ?_
  rcases hs with ⟨⟨report, rfl⟩, hs⟩ | ⟨⟨message, rfl⟩, hs⟩
  · exact ((does_tell_completed hc hw reason report).bind fun _ => does_pure _) s hs
  · exact ((does_tell_failed hw reason message).bind fun _ => does_pure _) s hs

omit hc in
/-- A copy that was counted at a time that can be read is shown before anything else is done. -/
lemma does_announce_changed {poll : Poll} {copy : Copy} (hpoll : poll.outcome = .changed copy)
    (hcopy : copy.number = t.counted.count) {now : Moment} (hread : c.read = .ok now) :
    Ends (Scene.Displays c t.counted ds) (w.announce poll)
      (fun _ => Does receive unreadable c t ds) fun _ => Does receive unreadable c t ds := by
  have hnote (category : Option Category) (message : String) :
      Ends (Scene.Displays c t.counted ds) (Work.note (·.record category message) : Work σ Unit)
        (fun _ => Scene.Displays c t.counted ds) fun _ => Does receive unreadable c t ds := by
    refine (displays_record _ _).imp (fun _ => id) (fun _ _ => id) ?_
    rintro _ s ⟨-, cause, hcause⟩
    cases hread.symm.trans hcause
  have hshow : Ends (Scene.Displays c t.counted ds) (w.showCopy copy)
      (fun _ => Does receive unreadable c t ds) fun _ => Does receive unreadable c t ds := by
    have hshown : Ends (Scene.Displays c t.counted ds) (w.showCopy copy) _ _ :=
      displays_hand hw t.counted.showCopies (fun _ _ h => ⟨hcopy, h⟩) rfl rfl
    exact hshown.imp (fun _ => id) (fun _ _ ⟨d, hd, _, hs⟩ => .inr ⟨.copied d, hd, hs⟩)
      fun _ _ ⟨d, hd, _, hs⟩ => .inr ⟨.copied d, hd, hs⟩
  simp only [Watchdog.announce, hpoll]
  exact (hnote _ _).bind fun _ => .ite ((hnote _ _).bind fun _ => hshow) hshow

omit hc in
/-- Without a copy, a message is all that there may be to hand over. -/
lemma does_announce {poll : Poll} (hpoll : ∀ copy, poll.outcome ≠ .changed copy) :
    Ends (Scene.Displays c t ds) (w.announce poll)
      (fun _ => Does receive unreadable c t ds) fun _ => Does receive unreadable c t ds := by
  unfold Watchdog.announce
  split
  · refine (does_of_lapses (displays_record _ _)).bind fun _ => ?_
    refine (does_of_lapses displays_clockText).bind fun _ => ?_
    exact does_of_hands (displays_say hw _)
  · exact .pure fun _ => .inl
  · exact .pure fun _ => .inl
  · next copy houtcome => exact absurd houtcome (hpoll copy)

lemma does_look (o : Observation) :
    Ends (Scene.Displays c t ds) (w.look o) (fun _ => Does receive unreadable c t ds)
      fun _ => Does receive unreadable c t ds := by
  have htick : Ends (Scene.Displays c t ds) (w.tick o) _
      (fun _ => Does receive unreadable c t ds) :=
    (displays_tick o).imp (fun _ => id) (fun _ _ => id) fun _ s ⟨hs, cause, hcause⟩ =>
      .inr ⟨.missed, hc cause hcause, by simpa [Deed.deliveries, Deed.move] using hs⟩
  refine htick.bind fun poll s hs => ?_
  rcases hs with ⟨⟨copy, hpoll, hcopy⟩, ⟨now, hread⟩, hs⟩ | ⟨hnone, hs⟩
  · exact ((does_announce_changed hw hpoll hcopy hread).bind fun _ => does_pure _) s hs
  · exact ((does_announce hw hnone).bind fun _ => does_pure _) s hs

end Ends

/-! ### Rows of deeds -/

/-- A row of deeds tells of all that was counted and handed over so far. -/
def Scene.Accounted (receive : Delivery → Option Fault) (unreadable : Prop) (c : Clock)
    (s : Scene σ Watch) : Prop :=
  ∃ row, Fitting receive unreadable row ∧
    s.Displays c (Tally.after row) (row.flatMap Deed.deliveries)

section

variable {receive : Delivery → Option Fault} {unreadable : Prop}

lemma Does.accounted {row : List Deed} (hrow : Fitting receive unreadable row)
    (h : Does receive unreadable c (Tally.after row) (row.flatMap Deed.deliveries) s) :
    s.Accounted receive unreadable c := by
  rcases h with hs | ⟨deed, hdeed, hs⟩
  · exact ⟨row, hrow, hs⟩
  · refine ⟨row ++ [deed], fitting_concat hrow hdeed, ?_⟩
    rw [Tally.after_concat, List.flatMap_append, List.flatMap_singleton]
    exact hs

/-- An act that does one deed at most keeps the account. -/
lemma Keeps.accounted {a : Work σ α} (h : ∀ t ds, Ends (Scene.Displays c t ds) a
    (fun _ => Does receive unreadable c t ds) fun _ => Does receive unreadable c t ds) :
    Keeps (Scene.Accounted receive unreadable c) a := by
  rintro s ⟨row, hrow, hs⟩
  have hs' := h _ _ s hs
  revert hs'
  rcases a.run.run s with ⟨_ | _, s'⟩ <;> exact fun hs' => hs'.accounted hrow

lemma Keeps.accounted_of_displays {a : Work σ α}
    (h : ∀ t ds, Keeps (Scene.Displays c t ds) a) :
    Keeps (Scene.Accounted receive unreadable c) a :=
  fun s ⟨row, hrow, hs⟩ => ⟨row, hrow, h _ _ s hs⟩

variable {w : Watchdog σ}

lemma Watchdog.upholds_accounted (hc : ∀ cause, c.read = .error cause → unreadable)
    (hw : w.receiver = some receive) :
    w.Upholds (Scene.Accounted receive unreadable c) where
  note hf := .accounted_of_displays fun t ds s hs => by
    rw [run_note]
    exact ⟨hs.free, hs.runs, hs.watch.journal (hf _)⟩
  onJournal hf := .accounted_of_displays fun _ _ _ hs =>
    ⟨hs.free, hs.runs, hs.watch.journal (hf _)⟩
  showMode diagnostics := .accounted fun t ds =>
    have hhand : Ends (Scene.Displays c t ds)
        (do Work.onStatus fun st => { st with diagnostics }; w.emit) _ _ :=
      Ends.displays_hand hw t (fun _ h h' => ⟨h, h'⟩) rfl rfl
    Ends.does_of_hands hhand
  withHost _ _ := fun ⟨row, hrow, hs⟩ => ⟨row, hrow, hs.free, hs.runs, hs.watch⟩
  visited _ _ := fun ⟨row, hrow, hs⟩ => ⟨row, hrow, hs.free, hs.runs, hs.watch⟩
  switch f hf := .accounted_of_displays fun t ds s hs => ⟨hs.free, hs.runs, hs.watch.monitor
    ((congrArg CopyCounter.count (hf s.around.monitor)).trans hs.watch.count) rfl rfl⟩
  emit := .accounted fun _ _ => Ends.does_of_hands (Ends.displays_emit hw)
  look o := .accounted fun _ _ => Ends.does_look hc hw o
  remediate reason := .accounted fun _ _ => Ends.does_remediate hc hw reason

/-- After a run there is a row of deeds that tells of all that was counted and handed over. In it
something is left at being counted only if the clock could not be read at some time of the run. -/
lemma Watchdog.accounted_served (hw : w.receiver = some receive) (host : σ) (disk : Disk)
    (clock : Clock) (steps : List (Clock × Activity)) :
    let s := w.served (w.opening host disk clock) steps
    ∃ row, Fitting receive (∃ step ∈ steps, ∃ cause, step.1.read = .error cause) row ∧
      s.around.deliveries = row.flatMap Deed.deliveries ∧ s.tally = Tally.after row := by
  intro s
  have haccounted : ∃ c, s.Accounted receive (∃ step ∈ steps, ∃ cause, step.1.read = .error cause)
      c := by
    refine served_of_upholds
      (P := fun s => ∃ c, s.Accounted receive _ c)
      (Q := fun c s => s.Accounted receive (∃ step ∈ steps, ∃ cause, step.1.read = .error cause) c)
      ?_ ?_ (fun _ clock hs => ⟨clock, hs⟩) ?_
    · exact fun step hstep =>
        upholds_accounted (fun cause hcause => ⟨step, hstep, cause, hcause⟩) hw
    · rintro s step - ⟨c, row, hrow, hs⟩
      exact ⟨row, hrow, hs.free, hs.runs, rfl, hs.watch.count, hs.watch.copies, hs.watch.resets,
        hs.watch.deliveries⟩
    · refine ⟨clock, [], fun front deed back h => ?_, rfl, rfl, rfl, rfl, rfl, rfl, rfl⟩
      simp at h
  obtain ⟨c, row, hrow, hs⟩ := haccounted
  refine ⟨row, hrow, hs.watch.deliveries, ?_⟩
  simp only [Scene.tally, hs.runs, hs.watch.count, hs.watch.copies, hs.watch.resets]

end

end ClipboardWatchdog
