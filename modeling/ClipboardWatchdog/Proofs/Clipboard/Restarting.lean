import ClipboardWatchdog.Clipboard.PollingThreads
import Mathlib.Data.List.Induction
import Mathlib.Tactic.Common

/-!
# Restarting the monitor

Stopping the monitor does not wait for its thread, and starting it again sets the very flag that
the old thread is about to test. If the start comes first then the old thread goes on ticking
beside the new one. So every thread that has not ended when the monitor is stopped can still tick
anew, and exactly those runs have one thread at a time in which none is spawned before all others
have ended: `ticksAnew_iff`.
-/

namespace ClipboardWatchdog

namespace Threads

variable {t u : Threads} {n : ℕ}

/-- The thread has not ended. -/
def IsAlive (t : Threads) (n : ℕ) : Prop := ∃ p ∈ t.alive, p.number = n

/-- The thread was spawned and has ended. -/
def HasEnded (t : Threads) (n : ℕ) : Prop := n < t.spawned ∧ ¬t.IsAlive n

/-! ### Steps -/

lemma phase?_eq_none_iff : t.phase? n = none ↔ ¬t.IsAlive n := by
  simp [phase?, IsAlive]

lemma isAlive_of_phase? {phase : ThreadPhase} (h : t.phase? n = some phase) : t.IsAlive n := by
  by_contra hended
  rw [phase?_eq_none_iff.mpr hended] at h
  cases h

lemma isAlive_moved_iff {m : ℕ} {phase : ThreadPhase} :
    (t.moved m phase).IsAlive n ↔ t.IsAlive n := by
  simp only [IsAlive, moved, List.mem_map]
  constructor
  · rintro ⟨-, ⟨p, hp, rfl⟩, hn⟩
    exact ⟨p, hp, by split at hn <;> exact hn⟩
  · rintro ⟨p, hp, hn⟩
    exact ⟨_, ⟨p, hp, rfl⟩, by split <;> exact hn⟩

lemma isAlive_ended_iff {m : ℕ} : (t.ended m).IsAlive n ↔ t.IsAlive n ∧ n ≠ m := by
  simp only [IsAlive, ended, List.mem_filter, decide_eq_true_eq]
  constructor
  · rintro ⟨p, ⟨hp, hm⟩, rfl⟩
    exact ⟨⟨p, hp, rfl⟩, hm⟩
  · rintro ⟨⟨p, hp, rfl⟩, hm⟩
    exact ⟨p, ⟨hp, hm⟩, rfl⟩

lemma phase?_moved {phase : ThreadPhase} (h : t.IsAlive n) :
    (t.moved n phase).phase? n = some phase := by
  have hsame : (fun p : PollingThread => decide (p.number = n)) ∘
      (fun p => if p.number = n then { p with phase } else p) = fun p => decide (p.number = n) := by
    funext q
    rw [Function.comp_apply]
    split <;> rfl
  cases hfound : t.alive.find? (·.number = n) with
  | none =>
    obtain ⟨p, hp, hn⟩ := h
    exact absurd hn (by simpa using List.find?_eq_none.mp hfound p hp)
  | some q =>
    have hq : q.number = n := by simpa using List.find?_some hfound
    simp only [phase?, moved, List.find?_map, hsame, hfound, hq, Option.map_some, if_true]

/-- What a step can do. -/
inductive Stepped (t : Threads) : ThreadStep → Threads → Prop
  | goesOn (hrunning : t.running = true) : Stepped t .start t
  | spawns (hstopped : t.running = false) : Stepped t .start
      { running := true, spawned := t.spawned + 1, alive := t.alive ++ [⟨t.spawned, .testing⟩] }
  | stops : Stepped t .stop { t with running := false }
  | passes {n : ℕ} (hrunning : t.running = true) (hphase : t.phase? n = some .testing) :
      Stepped t (.test n) (t.moved n .ticking)
  | ends {n : ℕ} (hstopped : t.running = false) (hphase : t.phase? n = some .testing) :
      Stepped t (.test n) (t.ended n)
  | ticks {n : ℕ} (hphase : t.phase? n = some .ticking) : Stepped t (.tick n) (t.moved n .asleep)
  | wakes {n : ℕ} (hphase : t.phase? n = some .asleep) : Stepped t (.wake n) (t.moved n .testing)

lemma stepped_of_step {s : ThreadStep} (h : t.step s = some u) : Stepped t s u := by
  cases s with
  | start =>
    cases hrunning : t.running <;> simp only [step, hrunning] at h <;> cases h
    · exact .spawns hrunning
    · exact .goesOn hrunning
  | stop => cases h; exact .stops
  | test n =>
    simp only [step] at h
    split at h
    next hphase =>
      cases hrunning : t.running <;> simp only [hrunning] at h <;> cases h
      · exact .ends hrunning hphase
      · exact .passes hrunning hphase
    next => cases h
  | tick n | wake n =>
    simp only [step] at h
    split at h
    next hphase => cases h; constructor; exact hphase
    next => cases h

lemma Stepped.spawned_le {s : ThreadStep} (h : Stepped t s u) : t.spawned ≤ u.spawned := by
  cases h <;> simp [moved, ended]

/-- Only a start sets the flag. -/
lemma Stepped.running_eq_false {s : ThreadStep} (h : Stepped t s u) (hs : s ≠ .start)
    (hstopped : t.running = false) : u.running = false := by
  cases h with
  | goesOn | spawns => exact absurd rfl hs
  | stops => rfl
  | passes | ends | ticks | wakes => exact hstopped

/-- No thread comes back: a number is given once. -/
lemma Stepped.hasEnded {s : ThreadStep} (h : Stepped t s u) (hn : t.HasEnded n) :
    u.HasEnded n := by
  refine ⟨Nat.lt_of_lt_of_le hn.1 h.spawned_le, ?_⟩
  cases h with
  | goesOn | stops => exact hn.2
  | spawns =>
    rintro ⟨p, hp, rfl⟩
    rcases List.mem_append.mp hp with hp | hp
    · exact hn.2 ⟨p, hp, rfl⟩
    · rw [List.mem_singleton.mp hp] at hn
      exact Nat.lt_irrefl _ hn.1
  | passes | ticks | wakes => exact fun halive => hn.2 (isAlive_moved_iff.mp halive)
  | ends => exact fun halive => hn.2 (isAlive_ended_iff.mp halive).1

lemma step_tick_of_hasEnded (h : t.HasEnded n) : t.step (.tick n) = none := by
  simp [step, phase?_eq_none_iff.mpr h.2]

/-! ### Runs -/

lemma run_append (t : Threads) (a b : List ThreadStep) :
    t.run (a ++ b) = (t.run a).bind (·.run b) := by
  induction a generalizing t with
  | nil => rfl
  | cons s a ih =>
    simp only [List.cons_append, run]
    cases t.step s with
    | none => rfl
    | some u => exact ih u

lemma run_cons_eq_some_iff {s : ThreadStep} {steps : List ThreadStep} :
    t.run (s :: steps) = some u ↔ ∃ mid, t.step s = some mid ∧ mid.run steps = some u := by
  simp [run, Option.bind_eq_some_iff]

lemma run_append_eq_some_iff {a b : List ThreadStep} :
    t.run (a ++ b) = some u ↔ ∃ mid, t.run a = some mid ∧ mid.run b = some u := by
  rw [run_append, Option.bind_eq_some_iff]

/-- What every step keeps, a run keeps. -/
lemma run_induction {P : Threads → Prop} {steps : List ThreadStep} (h : t.run steps = some u)
    (hstep : ∀ {t u : Threads}, ∀ s ∈ steps, Stepped t s u → P t → P u) (ht : P t) : P u := by
  induction steps generalizing t with
  | nil => cases h; exact ht
  | cons s steps ih =>
    obtain ⟨mid, hs, hrest⟩ := run_cons_eq_some_iff.mp h
    exact ih hrest (fun s hs => hstep s (List.mem_cons_of_mem _ hs))
      (hstep s List.mem_cons_self (stepped_of_step hs) ht)

/-- A thread that has ended does not tick. -/
lemma tick_notMem_of_hasEnded (hn : t.HasEnded n) {steps : List ThreadStep}
    (h : t.run steps = some u) : .tick n ∉ steps := by
  intro hmem
  obtain ⟨a, b, rfl⟩ := List.append_of_mem hmem
  obtain ⟨mid, ha, hb⟩ := run_append_eq_some_iff.mp h
  have hended : mid.HasEnded n := run_induction ha (fun _ _ hs => hs.hasEnded) hn
  obtain ⟨v, htick, -⟩ := run_cons_eq_some_iff.mp hb
  rw [step_tick_of_hasEnded hended] at htick
  cases htick

/-! ### Ticking after a stop -/

/-- In a row of steps the thread begins a tick and carries it out: it tests the flag, and ticks
after that. -/
def TicksAnew (n : ℕ) (steps : List ThreadStep) : Prop :=
  ∃ a b c, steps = a ++ .test n :: (b ++ .tick n :: c)

/-- In a row of steps a start comes before the next test of the thread, which ticks after it. -/
def Overtaken (n : ℕ) (steps : List ThreadStep) : Prop :=
  ∃ a b, steps = a ++ .start :: b ∧ .start ∉ a ∧ .test n ∉ a ∧ TicksAnew n b

lemma ticksAnew_cons_iff {s : ThreadStep} {steps : List ThreadStep} :
    TicksAnew n (s :: steps) ↔ s = .test n ∧ .tick n ∈ steps ∨ TicksAnew n steps := by
  constructor
  · rintro ⟨_ | ⟨r, a⟩, b, c, h⟩ <;> obtain ⟨rfl, rfl⟩ := List.cons_eq_cons.mp h
    · exact .inl ⟨rfl, by simp⟩
    · exact .inr ⟨a, b, c, rfl⟩
  · rintro (⟨rfl, htick⟩ | ⟨a, b, c, rfl⟩)
    · obtain ⟨b, c, rfl⟩ := List.append_of_mem htick
      exact ⟨[], b, c, rfl⟩
    · exact ⟨s :: a, b, c, rfl⟩

lemma TicksAnew.append_left {steps : List ThreadStep} (h : TicksAnew n steps)
    (past : List ThreadStep) : TicksAnew n (past ++ steps) := by
  obtain ⟨a, b, c, rfl⟩ := h
  exact ⟨past ++ a, b, c, by simp⟩

lemma TicksAnew.tick_mem {steps : List ThreadStep} (h : TicksAnew n steps) : .tick n ∈ steps := by
  obtain ⟨a, b, c, rfl⟩ := h
  simp

/-- While the flag is clear, a thread that has been spawned can begin a tick only after a start
that overtakes it. -/
lemma overtaken_of_ticksAnew {steps : List ThreadStep} (hn : n < t.spawned)
    (hstopped : t.running = false) (h : t.run steps = some u) (hticks : TicksAnew n steps) :
    Overtaken n steps := by
  induction steps generalizing t with
  | nil => obtain ⟨a, b, c, h⟩ := hticks; simp at h
  | cons s steps ih =>
    obtain ⟨mid, hs, hrest⟩ := run_cons_eq_some_iff.mp h
    have hstepped := stepped_of_step hs
    by_cases htest : s = .test n
    · -- the test finds the flag clear, so the thread ends
      subst htest
      have hended : mid.HasEnded n := by
        cases hstepped with
        | passes hrunning => rw [hstopped] at hrunning; cases hrunning
        | ends => exact ⟨hn, fun halive => (isAlive_ended_iff.mp halive).2 rfl⟩
      have htick : .tick n ∈ steps := (List.mem_cons.mp hticks.tick_mem).resolve_left (by simp)
      exact absurd htick (tick_notMem_of_hasEnded hended hrest)
    · have hlater : TicksAnew n steps :=
        (ticksAnew_cons_iff.mp hticks).resolve_left fun h => htest h.1
      by_cases hstart : s = .start
      · exact ⟨[], steps, by rw [hstart, List.nil_append], by simp, by simp, hlater⟩
      · obtain ⟨a, b, rfl, hstarts, htests, hb⟩ :=
          ih (Nat.lt_of_lt_of_le hn hstepped.spawned_le)
            (hstepped.running_eq_false hstart hstopped) hrest hlater
        exact ⟨s :: a, b, rfl, by simp [hstarts, Ne.symm hstart], by simp [htests, Ne.symm htest],
          hb⟩

lemma ticksAnew_of_overtaken {steps : List ThreadStep} (h : Overtaken n steps) :
    TicksAnew n steps := by
  obtain ⟨a, b, rfl, -, -, hb⟩ := h
  rw [List.append_cons]
  exact hb.append_left _

/-- A thread that has not ended comes to test the flag, whether that is set or not. -/
lemma exists_run_testing (h : t.IsAlive n) :
    ∃ steps u, .stop ∉ steps ∧ t.run steps = some u ∧ u.phase? n = some .testing := by
  cases hphase : t.phase? n with
  | none => exact absurd h (phase?_eq_none_iff.mp hphase)
  | some phase =>
    cases phase with
    | testing => exact ⟨[], t, by simp, rfl, hphase⟩
    | asleep =>
      exact ⟨[.wake n], t.moved n .testing, by simp, by simp [run, step, hphase],
        phase?_moved h⟩
    | ticking =>
      have hasleep : (t.moved n .asleep).phase? n = some .asleep := phase?_moved h
      exact ⟨[.tick n, .wake n], (t.moved n .asleep).moved n .testing, by simp,
        by simp [run, step, hphase, hasleep], phase?_moved (isAlive_moved_iff.mpr h)⟩

/-- Started where it is about to test the flag, a thread ticks anew. -/
lemma exists_run_ticking (h : t.phase? n = some .testing) :
    ∃ u, t.run [.start, .test n, .tick n] = some u := by
  obtain ⟨mid, hstart, hrunning, hphase⟩ :
      ∃ mid, t.step .start = some mid ∧ mid.running = true ∧ mid.phase? n = some .testing := by
    cases hrunning : t.running with
    | true => exact ⟨t, by simp [step, hrunning], hrunning, h⟩
    | false =>
      refine ⟨_, by simp only [step, hrunning]; rfl, rfl, ?_⟩
      simp only [phase?, Option.map_eq_some_iff] at h ⊢
      obtain ⟨p, hp, hn⟩ := h
      exact ⟨p, by rw [List.find?_append, hp, Option.some_or], hn⟩
  have htest : mid.step (.test n) = some (mid.moved n .ticking) := by simp [step, hphase, hrunning]
  have htick : (mid.moved n .ticking).step (.tick n) =
      some ((mid.moved n .ticking).moved n .asleep) := by
    simp [step, phase?_moved (isAlive_of_phase? hphase)]
  exact ⟨_, run_cons_eq_some_iff.mpr ⟨_, hstart, run_cons_eq_some_iff.mpr
    ⟨_, htest, run_cons_eq_some_iff.mpr ⟨_, htick, rfl⟩⟩⟩⟩

/-- After a stop, exactly the threads that have not ended can still tick anew. -/
lemma exists_ticksAnew_iff (hn : n < t.spawned) :
    (∃ rest u, .stop ∉ rest ∧ t.run (.stop :: rest) = some u ∧ TicksAnew n rest) ↔
      t.IsAlive n := by
  constructor
  · rintro ⟨rest, u, -, hrun, hticks⟩
    by_contra hended
    exact tick_notMem_of_hasEnded ⟨hn, hended⟩ hrun (List.mem_cons_of_mem _ hticks.tick_mem)
  · intro halive
    let stopped : Threads := { t with running := false }
    obtain ⟨steps, mid, hsteps, hmid, hphase⟩ := exists_run_testing (t := stopped) halive
    obtain ⟨u, hu⟩ := exists_run_ticking hphase
    exact ⟨steps ++ [.start, .test n, .tick n], u, by simp [hsteps],
      run_cons_eq_some_iff.mpr ⟨stopped, rfl, run_append_eq_some_iff.mpr ⟨mid, hmid, hu⟩⟩,
      steps ++ [.start], [], [], by simp⟩

/-! ### One thread at a time -/

/-- Wherever a row of steps leads from a fresh monitor, at most one thread has not ended. -/
def OneAtATime (steps : List ThreadStep) : Prop :=
  ∀ past t, past <+: steps → ({} : Threads).run past = some t → t.alive.length ≤ 1

/-- In a row of steps from a fresh monitor a thread is spawned only where all others have ended. -/
def SpawnsAlone (steps : List ThreadStep) : Prop :=
  ∀ past t, past ++ [.start] <+: steps → ({} : Threads).run past = some t → t.running = false →
    t.alive = []

lemma length_alive_le_one {past : List ThreadStep} (h : SpawnsAlone past)
    (hrun : ({} : Threads).run past = some t) : t.alive.length ≤ 1 := by
  induction past using List.reverseRecOn generalizing t with
  | nil => cases hrun; simp
  | append_singleton past s ih =>
    obtain ⟨before, hbefore, hlast⟩ := run_append_eq_some_iff.mp hrun
    obtain ⟨last, hs, hend⟩ := run_cons_eq_some_iff.mp hlast
    cases hend
    have hle := ih (fun a t ha => h a t (ha.trans (List.prefix_append _ _))) hbefore
    cases stepped_of_step hs with
    | goesOn | stops => exact hle
    | spawns hstopped => simp [h past before (List.prefix_refl _) hbefore hstopped]
    | passes | ticks | wakes => simpa [moved] using hle
    | ends => exact Nat.le_trans (List.length_filter_le _ _) hle

lemma oneAtATime_iff {steps : List ThreadStep} : OneAtATime steps ↔ SpawnsAlone steps := by
  constructor
  · intro h past t hpast hrun hstopped
    have hspawned : ({} : Threads).run (past ++ [.start]) = some
        ⟨true, t.spawned + 1, t.alive ++ [⟨t.spawned, .testing⟩]⟩ := by
      rw [run_append, hrun]
      simp [run, step, hstopped]
    have hle := h _ _ hpast hspawned
    exact List.length_eq_zero_iff.mp (by simpa using hle)
  · exact fun h past t hpast hrun =>
      length_alive_le_one (fun a t ha => h a t (ha.trans hpast)) hrun

/-- A start that overtakes a thread finds it alive. -/
lemma not_overtaken_of_spawnsAlone {past rest : List ThreadStep}
    (halone : SpawnsAlone (past ++ .stop :: rest)) (hpast : ({} : Threads).run past = some t)
    (hn : n < t.spawned) (h : t.run (.stop :: rest) = some u) : ¬Overtaken n rest := by
  rintro ⟨a, b, rfl, hstarts, -, hticks⟩
  obtain ⟨stopped, hstop, hrest⟩ := run_cons_eq_some_iff.mp h
  cases hstop
  obtain ⟨mid, ha, hb⟩ := run_append_eq_some_iff.mp hrest
  have hclear : mid.running = false := by
    refine run_induction ha (P := fun t => t.running = false) (fun s hs hstep => ?_) rfl
    exact hstep.running_eq_false fun heq => hstarts (heq ▸ hs)
  have hspawned : n < mid.spawned :=
    run_induction ha (P := fun t => n < t.spawned)
      (fun _ _ hstep hlt => Nat.lt_of_lt_of_le hlt hstep.spawned_le) hn
  have hmid : ({} : Threads).run (past ++ .stop :: a) = some mid :=
    run_append_eq_some_iff.mpr ⟨t, hpast, run_cons_eq_some_iff.mpr ⟨_, rfl, ha⟩⟩
  have hnone : mid.alive = [] :=
    halone (past ++ .stop :: a) mid ⟨b, by simp⟩ hmid hclear
  have hended : mid.HasEnded n := ⟨hspawned, by simp [IsAlive, hnone]⟩
  exact tick_notMem_of_hasEnded hended hb (List.mem_cons_of_mem _ hticks.tick_mem)

/-- When a thread ticks on after a stop. One that was spawned before it begins another tick exactly
if a start overtakes its next test of the flag, and every thread that has not ended can come to
that. A run has one thread at a time exactly if none is spawned before all others have ended; then
no stop is followed by a tick that was not begun before it. -/
theorem ticksAnew_iff {past rest : List ThreadStep} {t u : Threads}
    (hpast : ({} : Threads).run past = some t) (hrest : t.run (.stop :: rest) = some u) :
    (∀ n < t.spawned, TicksAnew n rest ↔ Overtaken n rest) ∧
    (∀ n < t.spawned, (∃ rest u, .stop ∉ rest ∧ t.run (.stop :: rest) = some u ∧
      TicksAnew n rest) ↔ t.IsAlive n) ∧
    (OneAtATime (past ++ .stop :: rest) ↔ SpawnsAlone (past ++ .stop :: rest)) ∧
    (SpawnsAlone (past ++ .stop :: rest) → ∀ n < t.spawned, ¬TicksAnew n rest) := by
  have hticks (n : ℕ) (hn : n < t.spawned) : TicksAnew n rest ↔ Overtaken n rest := by
    obtain ⟨stopped, hstop, hrun⟩ := run_cons_eq_some_iff.mp hrest
    cases hstop
    exact ⟨overtaken_of_ticksAnew (t := { t with running := false }) hn rfl hrun,
      ticksAnew_of_overtaken⟩
  refine ⟨hticks, fun n hn => exists_ticksAnew_iff hn, oneAtATime_iff, fun halone n hn => ?_⟩
  rw [hticks n hn]
  exact not_overtaken_of_spawnsAlone halone hpast hn hrest

/-- A thread that is asleep when the monitor is stopped. -/
theorem ticksAnew_iff_asleep :
    let past : List ThreadStep := [.start, .test 0, .tick 0]
    let rest : List ThreadStep := [.start, .wake 0, .test 0, .tick 0]
    ∃ t u, ({} : Threads).run past = some t ∧ t.run (.stop :: rest) = some u ∧ 0 < t.spawned ∧
      Overtaken 0 rest ∧
      ∃ rest u, .stop ∉ rest ∧ t.run (.stop :: rest) = some u ∧ TicksAnew 0 rest := by
  intro past rest
  have hpast : ({} : Threads).run past = some ⟨true, 1, [⟨0, .asleep⟩]⟩ := rfl
  have hrest : (⟨true, 1, [⟨0, .asleep⟩]⟩ : Threads).run (.stop :: rest) =
      some ⟨true, 2, [⟨0, .asleep⟩, ⟨1, .testing⟩]⟩ := rfl
  obtain ⟨hticks, hcan, -, -⟩ := ticksAnew_iff hpast hrest
  refine ⟨_, _, hpast, hrest, Nat.one_pos, (hticks 0 Nat.one_pos).mp ?_,
    (hcan 0 Nat.one_pos).mpr ⟨_, List.mem_singleton_self _, rfl⟩⟩
  exact ⟨[.start, .wake 0], [], [], rfl⟩

/-- A start that comes right after a stop, before the thread wakes up: the old thread ticks again,
and at one moment two threads are at a tick. -/
theorem ticksAnew_of_start_after_stop :
    let past : List ThreadStep := [.start, .test 0, .tick 0]
    let rest : List ThreadStep := [.start, .wake 0, .test 0, .test 1, .tick 0, .tick 1]
    (∃ t u, ({} : Threads).run past = some t ∧ 0 < t.spawned ∧ t.run (.stop :: rest) = some u ∧
      .stop ∉ rest ∧ TicksAnew 0 rest) ∧
    (∃ t, ({} : Threads).run (past ++ .stop :: rest.take 4) = some t ∧
      t.alive = [⟨0, .ticking⟩, ⟨1, .ticking⟩]) := by
  refine ⟨⟨_, _, rfl, by decide, rfl, by decide, ?_⟩, ⟨_, rfl, by decide⟩⟩
  exact ⟨[.start, .wake 0], [.test 1], [.tick 1], rfl⟩

end Threads

end ClipboardWatchdog
