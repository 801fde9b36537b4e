import ClipboardWatchdog.Proofs.Watchdog.PollingResets
import ClipboardWatchdog.Proofs.Watchdog.Showing
import ClipboardWatchdog.Proofs.Watchdog.Upholding

/-!
# Resets that are due

A copy is counted before anything else is done about it, and only once. Where a reset is due at a
copy, the tick that has counted it asks for the reset after the receiver was told of the copy and
the helper was looked at. Either may break the tick off, and no later tick counts that copy again:
`asksForReset_iff` says when the reset is asked for.
-/

namespace ClipboardWatchdog

variable {σ : Type}

/-- What the receiver is handed when a copy is shown. -/
def Scene.showing (s : Scene σ Watch) (copy : Copy) : Delivery :=
  ⟨{ s.around.status with copies := copy.number }.text, s.around.monitor.counter.count,
    s.engine.runs⟩

/-- A tick that tells of a copy has a snapshot, and for that the clock was read. -/
lemma Poll.clock_read_of_ofOutcome {clock : Clock} {outcome : PollOutcome} {poll : Poll}
    {copy : Copy} (h : Poll.ofOutcome clock outcome = .ok poll)
    (hcopy : poll.outcome = .changed copy) :
    outcome = .changed copy ∧ ∃ now, clock.read = .ok now := by
  cases outcome with
  | changed c =>
    cases hread : clock.read with
    | error fault => simp [Poll.ofOutcome, hread, bind, Except.bind] at h
    | ok now =>
      simp only [Poll.ofOutcome, hread] at h
      cases h
      exact ⟨hcopy, now, rfl⟩
  | _ => cases h; cases hcopy

namespace Watchdog

variable (w : Watchdog σ)

/-- A tick gets as far as asking for a reset. -/
def AsksForReset (s : Scene σ Watch) (o : Observation) : Prop :=
  ∃ reason t, (w.leadPoll o).run.run s = (.ok (some reason), t)

variable {w} {s t : Scene σ Watch} {poll : Poll} {copy : Copy}

/-! ### Records -/

/-- From the first scene to the second there was a record, and the next one will go through. -/
structure Recorded (s t : Scene σ Watch) : Prop where
  engine : t.engine = s.engine
  monitor : t.around.monitor = s.around.monitor
  status : t.around.status = s.around.status
  takes : t.around.journal.TakesRecords

lemma Recorded.showing (h : Recorded s t) : t.showing copy = s.showing copy := by
  simp only [Scene.showing, h.engine, h.monitor, h.status]

/-- Where records are taken, a record makes no difference to what comes after it. -/
lemma run_record_bind {β : Type} (htakes : s.around.journal.TakesRecords)
    (category : Option Category) (message : String) (rest : Unit → Work σ β) :
    ∃ t, Recorded s t ∧
      (Work.note (·.record category message) >>= rest).run.run s = (rest ()).run.run t := by
  refine ⟨{ s with around := { s.around with
    journal := (s.around.journal.record category message).2 } },
    ⟨rfl, rfl, rfl, Journal.takesRecords_record htakes _ _⟩, ?_⟩
  rw [run_run_bind, run_note, Journal.record_fst_of_takesRecords htakes]
  rfl

/-! ### Telling of the copy -/

lemma showCopy_eq_ok_iff :
    (∃ t, (w.showCopy copy).run.run s = (.ok (), t)) ↔
      ∀ receive ∈ w.receiver, receive (s.showing copy) = none := by
  let shown : Scene σ Watch := { s with
    around := { s.around with status := { s.around.status with copies := copy.number } } }
  have hrun : (w.showCopy copy).run.run s = w.emit.run.run shown := rfl
  have hdelivery : shown.delivery = s.showing copy := rfl
  rw [hrun, run_emit, hdelivery]
  cases w.receiver with
  | none => simp
  | some receive =>
    cases hreceive : receive (s.showing copy) with
    | none => simp [hreceive]
    | some fault =>
      simp only [Option.mem_def, Option.some.injEq, forall_eq', hreceive, reduceCtorEq, iff_false]
      rintro ⟨t, ht⟩
      cases ht

lemma journal_showCopy :
    ((w.showCopy copy).run.run s).2.around.journal = s.around.journal := by
  let shown : Scene σ Watch := { s with
    around := { s.around with status := { s.around.status with copies := copy.number } } }
  have hrun : (w.showCopy copy).run.run s = w.emit.run.run shown := rfl
  rw [hrun, run_emit]
  cases w.receiver <;> rfl

/-- Where records are taken, telling of a copy comes to showing it. -/
lemma exists_run_announce (htakes : s.around.journal.TakesRecords)
    (hpoll : poll.outcome = .changed copy) :
    ∃ t, t.showing copy = s.showing copy ∧ t.around.journal.TakesRecords ∧
      (w.announce poll).run.run s = (w.showCopy copy).run.run t := by
  simp only [announce, hpoll]
  split
  · obtain ⟨t, ht, hrun⟩ := run_record_bind htakes (some .info) (copy.line poll.snapshot) _
    obtain ⟨u, hu, hrun'⟩ := run_record_bind ht.takes (some .warn) _ fun _ => w.showCopy copy
    exact ⟨u, hu.showing.trans ht.showing, hu.takes, hrun.trans hrun'⟩
  · obtain ⟨t, ht, hrun⟩ := run_record_bind htakes (some .info) (copy.line poll.snapshot) _
    exact ⟨t, ht.showing, ht.takes, hrun⟩

lemma announce_eq_ok_iff (htakes : s.around.journal.TakesRecords)
    (hpoll : poll.outcome = .changed copy) :
    (∃ t, (w.announce poll).run.run s = (.ok (), t)) ↔
      ∀ receive ∈ w.receiver, receive (s.showing copy) = none := by
  obtain ⟨t, hsame, -, hrun⟩ := exists_run_announce (w := w) htakes hpoll
  rw [hrun, showCopy_eq_ok_iff, hsame]

lemma takesRecords_announce (htakes : s.around.journal.TakesRecords)
    (hpoll : poll.outcome = .changed copy) :
    ((w.announce poll).run.run s).2.around.journal.TakesRecords := by
  obtain ⟨t, -, ht, hrun⟩ := exists_run_announce (w := w) htakes hpoll
  rw [hrun, journal_showCopy]
  exact ht

/-! ### Looking at the helper -/

/-- The reason for which a reset that is due is asked for. -/
def dueReason (health : Health) : Reason := if health.needsRestart then .unhealthy else .scheduled

/-- What follows from the health of the helper after a copy. -/
def judge (copy : Copy) (health : Health) : Work σ (Option Reason) := do
  if health.needsRestart then
    Work.note (·.warn ("Helper needs restart: " ++ ", ".intercalate health.restartReasons))
    return some .unhealthy
  else if copy.resetDue then
    Work.note (·.info ("Scheduled reset after " ++ Text.decimal copy.number ++ " copies"))
    return some .scheduled
  else return none

lemma checkHelper_eq : w.checkHelper copy = w.recordHealth >>= judge copy := rfl

/-- Where a reset is due there is a reason for one, whatever the health of the helper. -/
lemma run_judge_of_due (htakes : s.around.journal.TakesRecords) (hdue : copy.resetDue = true)
    (health : Health) :
    ∃ t, t.engine = s.engine ∧
      (judge copy health).run.run s = (.ok (some (dueReason health)), t) := by
  have hfinish (category : Option Category) (message : String) (reason : Reason) :
      ∃ t, t.engine = s.engine ∧
        (do Work.note (·.record category message); return some reason : Work σ _).run.run s =
          (.ok (some reason), t) := by
    obtain ⟨t, ht, hrun⟩ := run_record_bind htakes category message fun _ =>
      (return some reason : Work σ (Option Reason))
    exact ⟨t, ht.engine, hrun⟩
  by_cases hneeds : health.needsRestart = true
  · simp only [judge, dueReason, hneeds, if_true]
    exact hfinish (some .warn) _ .unhealthy
  · simp only [judge, dueReason, hneeds, hdue, if_true]
    exact hfinish (some .info) _ .scheduled

/-- Looking at the helper after a copy at which a reset is due comes to a reason for one, unless the
look itself is broken off. -/
lemma run_checkHelper_of_due (htakes : s.around.journal.TakesRecords)
    (hdue : copy.resetDue = true) :
    match w.health.run.run s with
    | (.ok health, t) => ∃ u, u.engine = t.engine ∧
        (w.checkHelper copy).run.run s = (.ok (some (dueReason health)), u)
    | (.error fault, t) => (w.checkHelper copy).run.run s = (.error fault, t) := by
  have hlook := w.steady_takesRecords.toRoutine.keeps_health s htakes
  have hcheck : w.checkHelper copy = (w.health >>= fun health =>
      Work.note (·.record (some .diag) (w.config.helper ++ " health: " ++ health.summary)) >>=
        fun _ => judge copy health) := by
    simp only [checkHelper_eq, recordHealth, bind_assoc, pure_bind]
    rfl
  rw [hcheck, run_run_bind]
  revert hlook
  rcases w.health.run.run s with ⟨fault | health, t⟩
  · exact fun _ => rfl
  · intro (ht : t.around.journal.TakesRecords)
    obtain ⟨u, hu, hrun⟩ := run_record_bind ht (some .diag)
      (w.config.helper ++ " health: " ++ health.summary) fun _ => judge copy health
    obtain ⟨v, hv, hlast⟩ := run_judge_of_due hu.takes hdue health
    exact ⟨v, hv.trans hu.engine, hrun.trans hlast⟩

/-! ### Asking for the reset -/

/-- A tick that counts a copy has read the clock and raised the count to the number of the copy. -/
lemma tick_of_changed {o : Observation} (htick : (w.tick o).run.run s = (.ok poll, t))
    (hpoll : poll.outcome = .changed copy) :
    t.engine = s.engine ∧ t.around.journal.TakesRecords ∧
      copy.number = s.around.monitor.counter.count + 1 ∧
      t.around.monitor.counter.count = copy.number := by
  rw [run_tick] at htick
  obtain ⟨hreport, rfl⟩ := Prod.mk.inj htick
  cases hreported : Poll.ofOutcome s.around.journal.clock
      (s.around.monitor.counter.take (w.reading o)).1 with
  | error fault => rw [hreported] at hreport; cases hreport
  | ok reported =>
    rw [hreported] at hreport
    cases hreport
    obtain ⟨houtcome, now, hread⟩ := Poll.clock_read_of_ofOutcome hreported hpoll
    refine ⟨rfl, Journal.takesRecords_of_read hread, ?_⟩
    rcases s.around.monitor.counter.count_take (w.reading o) with
      ⟨counted, hcounted, hnumber, hcount⟩ | ⟨hnone, -⟩
    · obtain rfl := PollOutcome.changed.inj (houtcome.symm.trans hcounted)
      exact ⟨hnumber, hcount.trans hnumber.symm⟩
    · exact absurd houtcome (hnone copy)

/-- A tick that has counted a copy goes on with telling of it and looking at the helper. -/
lemma run_leadPoll_of_changed {o : Observation} (htick : (w.tick o).run.run s = (.ok poll, t))
    (hpoll : poll.outcome = .changed copy) :
    (w.leadPoll o).run.run s = (w.announce poll >>= fun _ => w.checkHelper copy).run.run t := by
  have hconsider : w.consider poll = w.checkHelper copy := by simp only [consider, hpoll]
  rw [leadPoll, run_run_bind, htick]
  change (w.lead poll).run.run t = _
  rw [lead_eq, hconsider]

/-- Where a reset is due, a tick comes to the reason for it, or it is broken off. -/
lemma run_leadPoll_of_due {o : Observation} (htick : (w.tick o).run.run s = (.ok poll, t))
    (hpoll : poll.outcome = .changed copy) (hdue : copy.resetDue = true) :
    let told := ((w.announce poll).run.run t).2
    (∃ health u x, (w.announce poll).run.run t = (.ok (), told) ∧
        w.health.run.run told = (.ok health, u) ∧ x.engine = u.engine ∧
        (w.leadPoll o).run.run s = (.ok (some (dueReason health)), x)) ∨
      (¬∃ health u, (w.announce poll).run.run t = (.ok (), told) ∧
          w.health.run.run told = (.ok health, u)) ∧
        ∃ fault x, (w.leadPoll o).run.run s = (.error fault, x) := by
  obtain ⟨-, htakes, -⟩ := tick_of_changed htick hpoll
  have htold := takesRecords_announce (w := w) htakes hpoll
  rw [run_leadPoll_of_changed htick hpoll, run_run_bind]
  revert htold
  rcases (w.announce poll).run.run t with ⟨fault | ⟨⟩, told⟩
  · intro _
    exact .inr ⟨by rintro ⟨_, _, ⟨⟩, -⟩, fault, told, rfl⟩
  · intro (htold : told.around.journal.TakesRecords)
    have hcheck := run_checkHelper_of_due (w := w) htold hdue
    revert hcheck
    rcases hlook : w.health.run.run told with ⟨fault | health, u⟩
    · intro hcheck
      refine .inr ⟨?_, fault, u, hcheck⟩
      rintro ⟨_, _, -, h⟩
      cases hlook.symm.trans h
    · rintro ⟨x, hx, hcheck⟩
      exact .inl ⟨health, u, x, rfl, hlook, hx, hcheck⟩

/-- In the background the tick is made if the monitor polls, and a fault is forgotten. -/
lemma run_turn_of_polling {o : Observation} (h : s.around.monitor.isPolling = true) :
    (w.turn o).run.run s = (.ok (), ((w.pollOnce o).run.run s).2) := by
  have hturn : (w.turn o).run.run s =
      (tryCatch (do let _ ← w.pollOnce o) fun _ => return () : Work σ Unit).run.run s := by
    rw [turn, run_watch_bind, if_pos h]
  rw [hturn, run_run_tryCatch, run_discard]
  rcases (w.pollOnce o).run.run s with ⟨_ | _, _⟩ <;> rfl

/-- The count of the copies never falls. -/
lemma upholds_count_le (n : ℕ) : w.Upholds (Scene.IsFree (n ≤ ·.count)) := by
  refine upholds_isFree fun c r hle => ?_
  rcases c.count_take r with ⟨-, -, -, hcount⟩ | ⟨-, hcount⟩ <;> omega

/-- What holds when the copy is counted, and is upheld, holds after the tick. -/
lemma isFree_pollOnce_of_changed {R : CopyCounter → Prop} (hR : w.Upholds (Scene.IsFree R))
    {o : Observation} (htick : (w.tick o).run.run s = (.ok poll, t))
    (hpoll : poll.outcome = .changed copy) (ht : t.IsFree R) :
    ((w.pollOnce o).run.run s).2.IsFree R := by
  have hrest : Keeps (Scene.IsFree R)
      ((w.announce poll >>= fun _ => w.checkHelper copy) >>= w.follow) :=
    ((keeps_isFree_of_rests fun _ _ => .rests_announce poll).bind fun _ =>
      hR.keeps_checkHelper copy).bind hR.keeps_follow
  have hsame : (w.pollOnce o).run.run s =
      ((w.announce poll >>= fun _ => w.checkHelper copy) >>= w.follow).run.run t := by
    rw [pollOnce_eq, run_run_bind, run_leadPoll_of_changed htick hpoll, ← run_run_bind]
  rw [hsame]
  exact hrest t ht

section

variable {o : Observation} (htick : (w.tick o).run.run s = (.ok poll, t))
  (hpoll : poll.outcome = .changed copy)

include htick hpoll

/-- No later copy has the number of one that was counted. -/
lemma number_lt_of_tick_later (hbusy : s.engine.busy = false) {later : List (Clock × Activity)}
    {clock : Clock} {o' : Observation} {poll' : Poll} {copy' : Copy} {x : Scene σ Watch}
    (htick' : (w.tick o').run.run
      ((w.served ((w.pollOnce o).run.run s).2 later).withClock clock) = (.ok poll', x))
    (hpoll' : poll'.outcome = .changed copy') : copy.number < copy'.number := by
  obtain ⟨hengine, -, -, hcount⟩ := tick_of_changed htick hpoll
  have hup : w.Upholds (Scene.IsFree (copy.number ≤ ·.count)) := upholds_count_le copy.number
  have hpolled := isFree_pollOnce_of_changed hup htick hpoll
    ⟨(congrArg Engine.busy hengine).trans hbusy, hcount.ge⟩
  have hlater : (w.served ((w.pollOnce o).run.run s).2 later).IsFree (copy.number ≤ ·.count) :=
    served_of_upholds (Q := fun _ => Scene.IsFree (copy.number ≤ ·.count)) (fun _ _ => hup)
      (fun _ _ _ h => ⟨h.free, h.counter⟩) (fun _ _ h => h) hpolled
  obtain ⟨-, -, hnumber, -⟩ := tick_of_changed htick' hpoll'
  exact hnumber ▸ Nat.lt_succ_of_le hlater.counter

variable (hdue : copy.resetDue = true)

include hdue

/-- The reset is asked for if the receiver takes the copy and the look at the helper comes back. -/
lemma asksForReset_of_due_iff :
    w.AsksForReset s o ↔
      (∀ receive ∈ w.receiver, receive (t.showing copy) = none) ∧
        ∃ health u, w.health.run.run ((w.announce poll).run.run t).2 = (.ok health, u) := by
  obtain ⟨-, htakes, -⟩ := tick_of_changed htick hpoll
  rw [← announce_eq_ok_iff htakes hpoll]
  rcases run_leadPoll_of_due htick hpoll hdue with
    ⟨health, u, x, hannounce, hlook, -, hx⟩ | ⟨hnone, fault, x, hx⟩
  · exact ⟨fun _ => ⟨⟨_, hannounce⟩, health, u, hlook⟩, fun _ => ⟨_, x, hx⟩⟩
  · constructor
    · rintro ⟨reason, y, hy⟩
      cases hx.symm.trans hy
    · rintro ⟨⟨v, hv⟩, health, u, hlook⟩
      exact absurd ⟨health, u, by rw [hv], hlook⟩ hnone

/-- The reset that is asked for finds the engine free. -/
lemma settles_of_asksForReset (hfree : s.IsFree fun _ => True) {health : Health}
    {u : Scene σ Watch} (hasks : w.AsksForReset s o)
    (hlook : w.health.run.run ((w.announce poll).run.run t).2 = (.ok health, u)) :
    ∃ x, x.engine = u.engine ∧
      (w.pollOnce o).run.run s = (w.follow (some (dueReason health))).run.run x ∧
      Settles x.engine.runs
        ((reset w.host Watch.dropManual w.config.helper (dueReason health)).run x) := by
  rcases run_leadPoll_of_due htick hpoll hdue with
    ⟨health', u', x, -, hlook', hsame, hx⟩ | ⟨-, fault, x, hx⟩
  · cases hlook.symm.trans hlook'
    have hup : w.Upholds (Scene.IsFree fun _ => True) := upholds_isFree fun _ _ h => h
    have hx' := hup.keeps_leadPoll o s hfree
    rw [hx] at hx'
    refine ⟨x, hsame, ?_, settles_reset _ _ _ _ hx'.free⟩
    rw [pollOnce_eq, run_run_bind, hx]
  · obtain ⟨reason, y, hy⟩ := hasks
    cases hx.symm.trans hy

/-- A tick that does not ask for the reset is broken off, which the loop forgets. -/
lemma run_pollOnce_of_not_asksForReset (hnot : ¬w.AsksForReset s o) :
    ∃ fault x, (w.pollOnce o).run.run s = (.error fault, x) ∧
      (s.around.monitor.isPolling = true → (w.turn o).run.run s = (.ok (), x)) := by
  rcases run_leadPoll_of_due htick hpoll hdue with
    ⟨health, u, x, -, -, -, hx⟩ | ⟨-, fault, x, hx⟩
  · exact absurd ⟨_, x, hx⟩ hnot
  · have hpolled : (w.pollOnce o).run.run s = (.error fault, x) := by
      rw [pollOnce_eq, run_run_bind, hx]
    refine ⟨fault, x, hpolled, fun hpolling => ?_⟩
    rw [run_turn_of_polling hpolling, hpolled]

end

/-- When a tick asks for the reset that is due at the copy that it has counted: exactly if the
receiver takes what it is handed of the copy, and the look at the helper then comes back. The reset
is carried out then, since the engine is free. In all other cases a fault breaks the tick off, which
the loop in the background forgets; and no later copy has the number of this one. -/
theorem asksForReset_iff (host : σ) (disk : Disk) (clock₀ clock : Clock)
    (steps : List (Clock × Activity)) (o : Observation) {poll : Poll} {copy : Copy}
    {t : Scene σ Watch}
    (htick : (w.tick o).run.run ((w.served (w.opening host disk clock₀) steps).withClock clock) =
      (.ok poll, t))
    (hpoll : poll.outcome = .changed copy) (hdue : copy.resetDue = true) :
    let s := (w.served (w.opening host disk clock₀) steps).withClock clock
    let told := ((w.announce poll).run.run t).2
    (w.AsksForReset s o ↔
      (∀ receive ∈ w.receiver, receive (t.showing copy) = none) ∧
        ∃ health u, w.health.run.run told = (.ok health, u)) ∧
    (∀ health u, w.AsksForReset s o → w.health.run.run told = (.ok health, u) →
      ∃ x, x.engine = u.engine ∧
        (w.pollOnce o).run.run s = (w.follow (some (dueReason health))).run.run x ∧
        Settles x.engine.runs
          ((reset w.host Watch.dropManual w.config.helper (dueReason health)).run x)) ∧
    (¬w.AsksForReset s o → ∃ fault x, (w.pollOnce o).run.run s = (.error fault, x) ∧
      (s.around.monitor.isPolling = true → (w.turn o).run.run s = (.ok (), x))) ∧
    (∀ later clock' o' poll' copy' x,
      (w.tick o').run.run
          ((w.served ((w.pollOnce o).run.run s).2 later).withClock clock') = (.ok poll', x) →
        poll'.outcome = .changed copy' → copy.number < copy'.number) := by
  intro s told
  have hfree : s.IsFree (fun _ => True) := by
    obtain ⟨hbusy, -⟩ := isFree_served (w := w) (R := fun _ => True) (fun _ _ h => h)
      (s := w.opening host disk clock₀) ⟨rfl, trivial⟩ steps
    exact ⟨hbusy, trivial⟩
  refine ⟨asksForReset_of_due_iff htick hpoll hdue, fun health u hasks hlook => ?_,
    run_pollOnce_of_not_asksForReset htick hpoll hdue, fun later clock' o' poll' copy' x => ?_⟩
  · exact settles_of_asksForReset htick hpoll hdue hfree hasks hlook
  · exact number_lt_of_tick_later htick hpoll hfree.free

end Watchdog

/-- A watchdog of a process table that resets the helper at every copy. -/
def ProcessTable.eager : Watchdog ProcessTable :=
  let w := ProcessTable.watchdog 5
  { w with config := { w.config with resetThreshold := 1 } }

namespace Watchdog

open ProcessTable

/-- The first copy, with a helper in good health. -/
theorem asksForReset_iff_first :
    let s := (eager.served (eager.opening sound .empty textTick.1) []).withClock textTick.1
    ∃ poll copy t, (eager.tick textTick.2).run.run s = (.ok poll, t) ∧
      poll.outcome = .changed copy ∧ copy.resetDue = true ∧ eager.AsksForReset s textTick.2 ∧
      ((eager.pollOnce textTick.2).run.run s).2.engine.runs = 1 := by
  have hasks := asksForReset_iff (w := eager) sound .empty textTick.1 textTick.1 [] textTick.2
    rfl rfl rfl
  exact ⟨_, _, _, rfl, rfl, rfl, hasks.1.mpr ⟨by rintro _ ⟨⟩, _, _, rfl⟩, by decide +kernel⟩

/-- The helper cannot be measured when the first copy is counted: no reset is asked for, neither by
the tick nor by a turn in the background, and the copy stays counted. -/
theorem no_reset_of_broken_sample :
    let table : ProcessTable := { found := [10], breaksOn := some (.sample, .text "boom") }
    let s := eager.opening table .empty textTick.1
    let started : Scene ProcessTable Watch :=
      { s with around := { s.around with monitor := s.around.monitor.start } }
    let polled := (eager.pollOnce textTick.2).run.run s
    let turned := (eager.turn textTick.2).run.run started
    (∃ poll copy t, (eager.tick textTick.2).run.run s = (.ok poll, t) ∧
      poll.outcome = .changed copy ∧ copy.resetDue = true) ∧
    ¬eager.AsksForReset s textTick.2 ∧
    (polled.1 = .error (.text "boom") ∧ polled.2.engine.runs = 0 ∧
      polled.2.engine.calls = [.find eager.config.helper, .sample 10] ∧
      polled.2.around.monitor.counter.count = 1) ∧
    turned.1 = .ok () ∧ turned.2.engine.runs = 0 ∧
      turned.2.engine.calls = [.find eager.config.helper, .sample 10] ∧
      turned.2.around.monitor.counter.count = 1 := by
  refine ⟨⟨_, _, _, rfl, rfl, rfl⟩, ?_, by decide +kernel, by decide +kernel⟩
  rintro ⟨reason, t, hrun⟩
  have hlead : ((eager.leadPoll textTick.2).run.run
      (eager.opening { found := [10], breaksOn := some (.sample, .text "boom") } .empty
        textTick.1)).1 = .error (.text "boom") := by
    decide +kernel
  rw [hrun] at hlead
  cases hlead

end Watchdog

end ClipboardWatchdog
