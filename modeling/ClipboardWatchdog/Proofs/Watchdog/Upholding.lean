import ClipboardWatchdog.Proofs.Watchdog.Serving

/-!
# What a watchdog upholds

Some properties of scenes do not hold on while a watchdog is in the middle of an act: a copy is
counted before it is shown, and a reset before it is told of. `Watchdog.Upholds Q` says that each
act keeps `Q` as a whole, however it ends, where the look at the clipboard with what is told of it
at once is one act, and so is a reset with what is told of it. Then all that is asked of a watchdog
keeps `Q`, whatever the host does and asks for meanwhile.
-/

namespace ClipboardWatchdog

variable {σ α : Type}

/-- Reading the time of day leaves no trace. -/
lemma Keeps.clockText_of {Q : Scene σ Watch → Prop} :
    Keeps Q (Work.clockText : Work σ String) := by
  intro s hs
  rw [Watchdog.run_clockText]
  cases s.around.journal.clock.read <;> exact hs

namespace Watchdog

variable (w : Watchdog σ)

/-! ### A look and what follows from it -/

/-- Tells at once what a tick has come to. -/
def announce (poll : Poll) : Work σ Unit := do
  match poll.outcome with
  | .inaccessible =>
    Work.note (·.warn ("Clipboard inaccessible (read failed or exceeded " ++
      Text.decimal w.config.readLimit.millis ++ "ms)"))
    w.say ("Clipboard inaccessible at " ++ (← Work.clockText))
  | .noText | .unchanged => return ()
  | .changed copy =>
    Work.note (·.info (copy.line poll.snapshot))
    if copy.signalMissing then
      Work.note (·.warn ("Text changed but OS signal missing (sequence " ++
        Text.decimal copy.sequence ++ " unchanged)"))
    w.showCopy copy

/-- The reason that there is to ask for a reset after a tick. -/
def consider (poll : Poll) : Work σ (Option Reason) :=
  match poll.outcome with
  | .inaccessible => return some .clipboardInaccessible
  | .noText | .unchanged => return none
  | .changed copy => w.checkHelper copy

lemma lead_eq (poll : Poll) : w.lead poll = w.announce poll >>= fun _ => w.consider poll := by
  unfold lead announce consider
  cases poll.outcome with
  | inaccessible => simp only [bind_assoc]
  | noText => simp only [pure_bind]
  | unchanged => simp only [pure_bind]
  | changed copy =>
    simp only [apply_ite (fun told => told >>= fun _ => w.checkHelper copy), bind_assoc]

/-- A tick and what is told of it at once. -/
def look (o : Observation) : Work σ Poll := do
  let poll ← w.tick o
  w.announce poll
  return poll

lemma leadPoll_eq (o : Observation) : w.leadPoll o = w.look o >>= w.consider := by
  simp only [leadPoll, look, lead_eq, bind_assoc, pure_bind]

/-! ### Acts -/

/-- Each act of a watchdog keeps the property, and so do the visits of the host. -/
structure Upholds (Q : Scene σ Watch → Prop) : Prop extends w.ModeFree Q, Unvisited Q where
  switch (f : Monitor → Monitor) (h : ∀ m, (f m).counter = m.counter) :
    Keeps Q (Work.onMonitor f : Work σ Unit)
  emit : Keeps Q w.emit
  look (o : Observation) : Keeps Q (w.look o)
  remediate (reason : Reason) : Keeps Q (w.remediate reason)

namespace Upholds

variable {w : Watchdog σ} {Q : Scene σ Watch → Prop} (hQ : w.Upholds Q)

include hQ

lemma keeps_resetManually : Keeps Q w.resetManually :=
  (hQ.keeps_record _ _).bind fun _ => (hQ.switch (·.pause) fun _ => rfl).bind fun _ =>
    (hQ.remediate .manual).bind fun _ => (hQ.switch (·.resume) fun _ => rfl).bind fun _ => .pure _

/-- The host may ask for resets in the middle of a call, and break it off. -/
lemma keeps_health : Keeps Q w.health := by
  have hask : Keeps Q (do
      let outcome ← w.resetManually
      return (← get).standing outcome) :=
    hQ.keeps_resetManually.bind fun _ => Keeps.get.bind fun _ => .pure _
  exact .procedure (.makeCall hQ.toUnvisited hask w.host) _

lemma keeps_recordHealth : Keeps Q w.recordHealth :=
  hQ.keeps_health.bind fun _ => (hQ.keeps_record _ _).bind fun _ => .pure _

lemma keeps_checkHelper (copy : Copy) : Keeps Q (w.checkHelper copy) :=
  hQ.keeps_recordHealth.bind fun _ =>
    .ite ((hQ.keeps_record _ _).bind fun _ => .pure _)
      (.ite ((hQ.keeps_record _ _).bind fun _ => .pure _) (.pure _))

lemma keeps_consider (poll : Poll) : Keeps Q (w.consider poll) := by
  unfold consider
  split
  · exact .pure _
  · exact .pure _
  · exact .pure _
  · exact hQ.keeps_checkHelper _

lemma keeps_follow (reason? : Option Reason) : Keeps Q (w.follow reason?) := by
  cases reason? with
  | none => exact .pure _
  | some reason => exact (hQ.remediate reason).bind fun _ => .pure _

lemma keeps_leadPoll (o : Observation) : Keeps Q (w.leadPoll o) := by
  rw [leadPoll_eq]
  exact (hQ.look o).bind hQ.keeps_consider

lemma keeps_pollOnce (o : Observation) : Keeps Q (w.pollOnce o) := by
  rw [pollOnce_eq]
  exact (hQ.keeps_leadPoll o).bind hQ.keeps_follow

lemma keeps_perform (op : Operation) : Keeps Q (w.perform op) := by
  cases op with
  | poll o => exact (hQ.keeps_pollOnce o).bind fun _ => .pure _
  | notify n latency => exact hQ.keeps_onNotification n latency
  | reset => exact hQ.keeps_resetManually.bind fun _ => .pure _
  | enable => exact (hQ.keeps_enableDiagnostics hQ.keeps_recordHealth).bind fun _ => .pure _
  | disable => exact hQ.keeps_disableDiagnostics
  | shutdown => exact (hQ.switch (·.stop) fun _ => rfl).bind fun _ => hQ.keeps_disableDiagnostics

lemma keeps_undertake (activity : Activity) : Keeps Q (w.undertake activity) := by
  cases activity with
  | operation op => exact hQ.keeps_perform op
  | start =>
    exact (hQ.keeps_record _ _).bind fun _ => hQ.keeps_recordHealth.bind fun _ =>
      (hQ.switch (·.start) fun _ => rfl).bind fun _ => hQ.emit
  | health => exact hQ.keeps_health.bind fun _ => .pure _
  | turn o =>
    refine Keeps.bind (Keeps.get.bind fun _ => .pure _) fun _ => .ite ?_ (.pure _)
    exact .tryCatch ((hQ.keeps_pollOnce o).bind fun _ => .pure _) fun _ => .pure _

end Upholds

variable {w}

/-- A property that a watchdog upholds at each time of a run holds throughout the run. What the
clock shows may come into it. -/
lemma served_of_upholds {P : Scene σ Watch → Prop} {Q : Clock → Scene σ Watch → Prop}
    {steps : List (Clock × Activity)} (hQ : ∀ step ∈ steps, w.Upholds (Q step.1))
    (hset : ∀ s, ∀ step ∈ steps, P s → Q step.1 (s.withClock step.1))
    (hread : ∀ s clock, Q clock s → P s) {s : Scene σ Watch} (hs : P s) :
    P (w.served s steps) := by
  induction steps generalizing s with
  | nil => exact hs
  | cons step steps ih =>
    refine ih (fun step hstep => hQ step (List.mem_cons_of_mem _ hstep))
      (fun s step hstep => hset s step (List.mem_cons_of_mem _ hstep)) ?_
    have hstep : step ∈ step :: steps := List.mem_cons_self
    exact hread _ step.1 ((hQ step hstep).keeps_undertake step.2 _ (hset s step hstep hs))

end Watchdog

/-! ### Telling -/

/-- The engine and the monitor are these. -/
structure Scene.Rests (e : Engine σ) (m : Monitor) (s : Scene σ Watch) : Prop where
  engine : s.engine = e
  monitor : s.around.monitor = m

namespace Keeps

variable {w : Watchdog σ} {e : Engine σ} {m : Monitor}

lemma rests_note {f : Journal → Journal.Written α} :
    Keeps (Scene.Rests e m) (Work.note f : Work σ α) := by
  intro s hs
  rw [run_note]
  exact ⟨hs.engine, hs.monitor⟩

lemma rests_emit : Keeps (Scene.Rests e m) w.emit := by
  intro s hs
  rw [Watchdog.run_emit]
  cases w.receiver with
  | none => exact hs
  | some receive => exact ⟨hs.engine, hs.monitor⟩

lemma rests_display (f : Status → Status) :
    Keeps (Scene.Rests e m) (do Work.onStatus f; w.emit) :=
  Keeps.bind (fun _ hs => ⟨hs.engine, hs.monitor⟩) fun _ => rests_emit

lemma rests_tell (reason : Reason) (outcome : Outcome) :
    Keeps (Scene.Rests e m) (w.tell reason outcome) := by
  have hcount : Keeps (Scene.Rests e m) w.showRuns :=
    .bind (.bind .get fun _ => .pure _) fun _ => rests_display _
  cases outcome with
  | completed report =>
    refine (Keeps.forM fun _ _ => rests_note).bind fun _ => .ite ?_ ?_
    · exact rests_note.bind fun _ => rests_note.bind fun _ => clockText_of.bind fun _ =>
        (rests_display _).bind fun _ => hcount
    · exact rests_note.bind fun _ => (rests_display _).bind fun _ => hcount
  | coalesced => exact rests_note
  | failed message => exact rests_note.bind fun _ => rests_display _

lemma rests_announce (poll : Poll) : Keeps (Scene.Rests e m) (w.announce poll) := by
  unfold Watchdog.announce
  split
  · exact rests_note.bind fun _ => clockText_of.bind fun _ => rests_display _
  · exact .pure _
  · exact .pure _
  · exact rests_note.bind fun _ =>
      .ite (rests_note.bind fun _ => rests_display _) (rests_display _)

/-- Work that leaves the engine and the monitor alone keeps what is said of the two. -/
lemma of_rests {R : Engine σ → Monitor → Prop} {a : Work σ α}
    (h : ∀ e m, Keeps (Scene.Rests e m) a) :
    Keeps (fun s : Scene σ Watch => R s.engine s.around.monitor) a := by
  intro s hs
  obtain ⟨hengine, hmonitor⟩ := h s.engine s.around.monitor s ⟨rfl, rfl⟩
  rw [hengine, hmonitor]
  exact hs

end Keeps

/-! ### Between two acts -/

/-- The engine is free, and the counter has a property. -/
structure Scene.IsFree (R : CopyCounter → Prop) (s : Scene σ Watch) : Prop where
  free : s.engine.busy = false
  counter : R s.around.monitor.counter

namespace Watchdog

variable {w : Watchdog σ} {R : CopyCounter → Prop}

lemma keeps_isFree_of_rests {a : Work σ α} (h : ∀ e m, Keeps (Scene.Rests e m) a) :
    Keeps (Scene.IsFree R) a := by
  intro s hs
  have hs' := Keeps.of_rests (R := fun e m => e.busy = false ∧ R m.counter) h s
    ⟨hs.free, hs.counter⟩
  exact ⟨hs'.1, hs'.2⟩

lemma keeps_counter_dropManual :
    Keeps (fun v : Watch => R v.monitor.counter) Watch.dropManual := by
  have note (message : String) :
      Keeps (fun v : Watch => R v.monitor.counter) (Watch.note (·.info message)) :=
    .watchNote fun _ hv => hv
  have switch (f : Monitor → Monitor) (hf : ∀ m, (f m).counter = m.counter) :
      Keeps (fun v : Watch => R v.monitor.counter) (Watch.onMonitor f) :=
    .modify fun v hv => (hf v.monitor).symm ▸ hv
  exact (note _).bind fun _ => (switch (·.pause) fun _ => rfl).bind fun _ =>
    (note _).bind fun _ => switch (·.resume) fun _ => rfl

/-- Between two acts the engine is free, and the counter has each property that taking in a reading
keeps. -/
lemma upholds_isFree (hR : ∀ c r, R c → R (c.take r).2) : w.Upholds (Scene.IsFree R) where
  note _ := keeps_isFree_of_rests fun _ _ => .rests_note
  onJournal _ := fun _ hs => ⟨hs.free, hs.counter⟩
  showMode _ := keeps_isFree_of_rests fun _ _ => .rests_display _
  withHost _ _ h := ⟨h.free, h.counter⟩
  visited _ _ h := ⟨h.free, h.counter⟩
  switch f hf := fun s hs => ⟨hs.free, (hf s.around.monitor).symm ▸ hs.counter⟩
  emit := keeps_isFree_of_rests fun _ _ => .rests_emit
  look o := by
    refine Keeps.bind (fun s hs => ?_) fun poll =>
      (keeps_isFree_of_rests fun _ _ => .rests_announce poll).bind fun _ => .pure _
    rw [run_tick]
    exact ⟨hs.free, hR _ _ hs.counter⟩
  remediate reason := by
    rw [remediate_eq]
    refine Keeps.bind (.lift fun s hs => ⟨?_, ?_⟩) fun outcome =>
      (keeps_isFree_of_rests fun _ _ => .rests_tell reason outcome).bind fun _ => .pure _
    · exact (settles_reset w.host Watch.dropManual w.config.helper reason hs.free).free
    · exact Keeps.reset keeps_counter_dropManual w.host w.config.helper reason s hs.counter

/-- So it is after a run. -/
lemma isFree_served (hR : ∀ c r, R c → R (c.take r).2) {s : Scene σ Watch} (hs : s.IsFree R)
    (steps : List (Clock × Activity)) : (w.served s steps).IsFree R :=
  served_of_upholds (Q := fun _ => Scene.IsFree R) (fun _ _ => upholds_isFree hR)
    (fun _ _ _ h => ⟨h.free, h.counter⟩) (fun _ _ h => h) hs

end Watchdog

end ClipboardWatchdog
