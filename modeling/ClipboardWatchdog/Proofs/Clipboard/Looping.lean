import ClipboardWatchdog.Clipboard.Monitor
import ClipboardWatchdog.Proofs.Clipboard.Counting

/-!
# The loop and its ticks

A turn of the loop folds what it has observed into the counter before it hands its report on, so a
receiver that breaks down takes nothing from the turns that follow, and a reader that breaks down
is a reading that failed. The loop therefore hands on what direct ticks over the same clipboard
return, and ends with the same counter: `turns_eq_ticks`.
-/

namespace ClipboardWatchdog

open CopyCounter (observed)

/-- What the counter takes in of a look at the clipboard. -/
def Observation.reading (limit : Span) (o : Observation) : Reading :=
  ⟨o.read.text? limit, o.before, o.after⟩

lemma Poll.tick_eq (limit : Span) (clock : Clock) (o : Observation) (c : CopyCounter) :
    Poll.tick limit clock o c =
      (Poll.ofOutcome clock (c.take (o.reading limit)).1, (c.take (o.reading limit)).2) := rfl

namespace Monitor

variable {ρ ε : Type} {limit : Span} {receive : Poll → ρ → Except ε Unit × ρ}

/-- One tick after the other, each with its own clock. They give the reports of those that came to
one. -/
def ticks (limit : Span) : List (Clock × Observation) → Monitor → List Poll × Monitor
  | [], m => ([], m)
  | (clock, o) :: looks, m =>
    let (report, m) := m.tick limit clock o
    let (reports, m) := ticks limit looks m
    (report.toOption.toList ++ reports, m)

/-- One turn of the loop after the other, each with its own clock. -/
def turns (limit : Span) (receive : Poll → ρ → Except ε Unit × ρ) :
    List (Clock × Observation) → Monitor → ρ → Monitor × ρ
  | [], m, r => (m, r)
  | (clock, o) :: looks, m, r =>
    let (m, r) := m.turn limit clock receive o r
    turns limit receive looks m r

/-- The receiver, with a list of the reports that it was handed. It breaks down where the receiver
does. -/
def recording (receive : Poll → ρ → Except ε Unit × ρ) (poll : Poll) (r : ρ × List Poll) :
    Except ε Unit × (ρ × List Poll) :=
  let (result, kept) := receive poll r.1
  (result, kept, r.2 ++ [poll])

/-! ### Ticks -/

lemma tick_start (clock : Clock) (o : Observation) (m : Monitor) :
    m.start.tick limit clock o = ((m.tick limit clock o).1, (m.tick limit clock o).2.start) := rfl

/-- Ticks change the counter alone, and that as the readings have it. -/
lemma ticks_snd (looks : List (Clock × Observation)) (m : Monitor) :
    (m.ticks limit looks).2 =
      { m with
        counter := (looks.map fun look => look.2.reading limit).foldl (fun c r => (c.take r).2)
          m.counter } := by
  induction looks generalizing m with
  | nil => rfl
  | cons look looks ih =>
    obtain ⟨clock, o⟩ := look
    simp only [ticks, ih, tick, Poll.tick_eq, List.map_cons, List.foldl_cons]

lemma ticks_append (a b : List (Clock × Observation)) (m : Monitor) :
    m.ticks limit (a ++ b) =
      ((m.ticks limit a).1 ++ ((m.ticks limit a).2.ticks limit b).1,
        ((m.ticks limit a).2.ticks limit b).2) := by
  induction a generalizing m with
  | nil => rfl
  | cons look a ih => simp only [List.cons_append, ticks, ih, List.append_assoc]

/-- A look whose reading failed is reported as such, whatever was looked at before. -/
lemma ticks_concat_of_failed {o : Observation} (hfailed : o.read.text? limit = none) (clock : Clock)
    (past : List (Clock × Observation)) (m : Monitor) :
    (m.ticks limit (past ++ [(clock, o)])).1 =
      (m.ticks limit past).1 ++ [⟨.inaccessible, none⟩] := by
  have houtcome (c : CopyCounter) : (c.take (o.reading limit)).1 = .inaccessible :=
    (c.take_eq_inaccessible_iff _).mpr hfailed
  simp [ticks_append, ticks, tick, Poll.tick_eq, houtcome, Poll.ofOutcome, Except.toOption]

/-- Looks that differ in what came of the reading only, and not in the text, cannot be told
apart. -/
lemma ticks_congr {a b : List (Clock × Observation)}
    (h : a.map (fun look => (look.1, look.2.reading limit)) =
      b.map (fun look => (look.1, look.2.reading limit))) (m : Monitor) :
    m.ticks limit a = m.ticks limit b := by
  induction a generalizing b m with
  | nil => rw [List.map_eq_nil_iff.mp h.symm]
  | cons look a ih =>
    cases b with
    | nil => cases h
    | cons look' b =>
      obtain ⟨clock, o⟩ := look
      obtain ⟨clock', o'⟩ := look'
      obtain ⟨hlook, hrest⟩ := List.cons_eq_cons.mp h
      obtain ⟨rfl, hreading⟩ := Prod.mk.inj hlook
      have htick : m.tick limit clock o = m.tick limit clock o' := by
        simp only [tick, Poll.tick_eq, hreading]
      simp only [ticks, htick, ih hrest]

/-! ### Turns -/

/-- A turn of a loop that polls is a tick, and hands its report on if there is one. -/
lemma turn_start {m : Monitor} (hpaused : m.paused = false) (clock : Clock) (o : Observation)
    (r : ρ) :
    m.start.turn limit clock receive o r = ((m.tick limit clock o).2.start,
      (m.tick limit clock o).1.toOption.toList.foldl (fun r poll => (receive poll r).2) r) := by
  have hpolling : m.start.isPolling = true := by simp [isPolling, start, hpaused]
  simp only [turn, hpolling, if_true, tick_start]
  cases (m.tick limit clock o).1 <;> rfl

lemma turns_start {m : Monitor} (hpaused : m.paused = false) (looks : List (Clock × Observation))
    (r : ρ) :
    m.start.turns limit receive looks r = ((m.ticks limit looks).2.start,
      (m.ticks limit looks).1.foldl (fun r poll => (receive poll r).2) r) := by
  induction looks generalizing m r with
  | nil => rfl
  | cons look looks ih =>
    obtain ⟨clock, o⟩ := look
    have hnext : (m.tick limit clock o).2.paused = false := hpaused
    simp only [turns, ticks, turn_start hpaused, ih hnext, List.foldl_append]

/-- The loop over a row of observations stands under one clock. -/
lemma loop_eq_turns (clock : Clock) (os : List Observation) (m : Monitor) (r : ρ) :
    m.loop limit clock receive os r = m.turns limit receive (os.map (clock, ·)) r := by
  induction os generalizing m r with
  | nil => rfl
  | cons o os ih => simp only [loop, turns, List.map_cons, ih]

lemma foldl_recording (polls : List Poll) (r : ρ) (seen : List Poll) :
    polls.foldl (fun r poll => (recording receive poll r).2) (r, seen) =
      (polls.foldl (fun r poll => (receive poll r).2) r, seen ++ polls) := by
  induction polls generalizing r seen with
  | nil => simp
  | cons poll polls ih =>
    change polls.foldl _ ((receive poll r).2, seen ++ [poll]) = _
    rw [ih, List.append_assoc, List.singleton_append, List.foldl_cons]

/-- The loop of a monitor that has just been started does what direct ticks do, however its receiver
ends each time. It hands on the reports of the ticks, one after the other, and keeps polling; the
copies that it has counted are those of the readings. A reading that failed, for whatever reason, is
handed on as such, and rows of looks that read the same texts are the same to it. -/
theorem turns_eq_ticks (limit : Span) (threshold : ℕ) (receive : Poll → ρ → Except ε Unit × ρ)
    (looks : List (Clock × Observation)) (r : ρ) :
    let fresh := Monitor.new threshold
    let direct := fresh.ticks limit looks
    let looped := fresh.start.turns limit (recording receive) looks (r, [])
    looped.2 = (direct.1.foldl (fun r poll => (receive poll r).2) r, direct.1) ∧
    looped.1 = direct.2.start ∧ looped.1.isPolling = true ∧
    looped.1.counter.count = Reading.copies (looks.map fun look => look.2.reading limit) ∧
    (∀ past clock o later, looks = past ++ (clock, o) :: later → o.read.text? limit = none →
      ∃ rest, looped.2.2 = (fresh.ticks limit past).1 ++ ⟨.inaccessible, none⟩ :: rest) ∧
    (∀ looks', looks.map (fun look => (look.1, look.2.reading limit)) =
        looks'.map (fun look => (look.1, look.2.reading limit)) →
      looped = fresh.start.turns limit (recording receive) looks' (r, [])) ∧
    (∀ clock os, looks = os.map (clock, ·) →
      looped = fresh.start.loop limit clock (recording receive) os (r, [])) := by
  intro fresh direct looped
  have hlooped : looped = (direct.2.start,
      (direct.1.foldl (fun r poll => (receive poll r).2) r, direct.1)) := by
    rw [show looped = _ from turns_start rfl looks (r, []), foldl_recording, List.nil_append]
  have hcounter : direct.2 = { fresh with
      counter := observed threshold (looks.map fun look => look.2.reading limit) } :=
    ticks_snd looks fresh
  refine ⟨by rw [hlooped], by rw [hlooped], by rw [hlooped, hcounter]; rfl, ?_, ?_, ?_, ?_⟩
  · rw [hlooped, hcounter]
    exact (CopyCounter.remembers_observed threshold _).count
  · rintro past clock o later rfl hfailed
    refine ⟨((fresh.ticks limit (past ++ [(clock, o)])).2.ticks limit later).1, ?_⟩
    rw [hlooped]
    change (fresh.ticks limit (past ++ (clock, o) :: later)).1 = _
    rw [List.append_cons, ticks_append, ticks_concat_of_failed hfailed, List.append_assoc,
      List.singleton_append]
  · intro looks' hsame
    have hdirect : direct = fresh.ticks limit looks' := ticks_congr hsame fresh
    rw [turns_start rfl looks' (r, []), foldl_recording, List.nil_append, hlooped, hdirect]
  · rintro clock os rfl
    exact (loop_eq_turns clock os _ _).symm

/-- A receiver that breaks down at its first report is handed the next one, and a reader that breaks
down in between counts nothing. -/
example :
    let limit : Span := .zero
    let clock : Clock := ⟨⟨1773047107, 0⟩⟩
    let receive : Poll → ℕ → Except Unit Unit × ℕ :=
      fun _ n => (if n = 0 then .error () else .ok (), n + 1)
    let looks : List (Clock × Observation) :=
      [(clock, ⟨1, [], .answered (.ok "a"), 1⟩), (clock, ⟨1, [], .crashed, 1⟩),
        (clock, ⟨1, [], .answered (.ok "a"), 1⟩)]
    let looped := (Monitor.new 7).start.turns limit (recording receive) looks (0, [])
    looped.2.2.map Poll.outcome =
        [.changed ⟨1, false, false, 1, "a"⟩, .inaccessible, .unchanged] ∧
      looped.1.counter.count = 1 := by
  decide

end Monitor

end ClipboardWatchdog
