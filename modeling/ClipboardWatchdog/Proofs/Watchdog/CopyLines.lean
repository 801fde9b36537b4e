import ClipboardWatchdog.Proofs.Clipboard.Previewing
import ClipboardWatchdog.Proofs.Watchdog.RecordLines
import ClipboardWatchdog.Proofs.Watchdog.Upholding

/-!
# Copies on one line

All that is written into the file of a session is lines, so that in every run the file of the
attached session is `Lined`. The record of a copy is one of the lines, whatever text was copied
(`Watchdog.copied_text_on_one_line`): its preview holds no character that ends a line.
-/

namespace ClipboardWatchdog

open Disk Text

variable {σ : Type}

/-! ### Files of lines -/

namespace Disk

variable {d : Disk} {p : Path} {new text : String} {content : Content}

/-- A text that stands in a file after appending stood there before, or did without its end. -/
lemma content?_append_cases (h : (d.append p text).2.content? p = some (.text new)) :
    ∃ old, d.content? p = some (.text old) ∧ (new = old ∨ new = old ++ text) := by
  by_cases hold : ∃ old, d.content? p = some (.text old)
  · obtain ⟨old, hold⟩ := hold
    refine ⟨old, hold, ?_⟩
    cases hfull : d.full with
    | true =>
      rw [append_snd_of_full hfull, hold] at h
      exact .inl (Content.text.inj (Option.some.inj h)).symm
    | false =>
      rw [content?_append hold hfull] at h
      exact .inr (Content.text.inj (Option.some.inj h)).symm
  · -- where no text stands, none is appended
    have hsame : (d.append p text).2 = d := by
      unfold append
      split
      · rfl
      · split
        · next old hstat => exact absurd ⟨old, content?_eq_some_iff.mpr ⟨_, hstat⟩⟩ hold
        · rfl
    rw [hsame] at h
    exact absurd ⟨new, h⟩ hold

/-- What stands in a file after a sweep stood there before. -/
lemma content?_of_sweep {dir : Path} {base : String} {keep : ℕ}
    (h : (Session.sweep d dir base keep).2.content? p = some content) :
    d.content? p = some content := by
  have hback (place : Place) (entry : Entry)
      (hentry : (Session.sweep d dir base keep).2.lookup place = some entry) :
      d.lookup place = some entry := by
    rcases Session.lookup_sweep d dir base keep place with hsame | ⟨-, hgone⟩
    · exact hsame.symm.trans hentry
    · cases hgone.symm.trans hentry
  obtain ⟨place, hstat⟩ := content?_eq_some_iff.mp h
  obtain ⟨hleads, hlookup⟩ := stat_eq_file_iff.mp hstat
  have hleads : d.Leads p place := hleads.mono fun place => hback place _
  exact hleads.content?_eq_some_iff.mpr (hback place _ hlookup)

end Disk

/-- The file of a new session holds lines. -/
lemma Session.lined_of_create_eq_ok {d d' : Disk} {clock : Clock} {origin : Origin} {dir : Path}
    {base : String} {role : Role} {helper : String} {s : Session} {text : String}
    (h : create d clock origin dir base role helper = (.ok s, d'))
    (htext : d'.content? s.path = some (.text text)) : ∃ lines, text = block lines := by
  obtain ⟨now, path, made, -, hopen, hstart⟩ := exists_start_of_create_eq_ok h
  obtain ⟨rfl, rfl⟩ := Prod.mk.inj hstart
  obtain ⟨k, -, -, -, hcreate, -⟩ := openFrom_eq_ok hopen
  obtain ⟨place, hleads, hnone, rfl⟩ := createNew_eq_ok hcreate
  have hempty := (hleads.mono (grown_insert hnone _).keepsDirectories).content?_eq_some_iff.mpr
    (lookup_insert_self hleads.ne_nil hnone (.file (.text "")))
  obtain ⟨old, hold, hnew⟩ := content?_append_cases htext
  obtain rfl : "" = old := Content.text.inj (Option.some.inj (hempty.symm.trans hold))
  rcases hnew with rfl | rfl
  · exact ⟨[], rfl⟩
  · exact ⟨header origin role now helper, String.empty_append⟩

namespace Journal

variable {c : Config} {j j' : Journal} {e : Event} {events : List Event}

/-- What stands in the file of the attached session is a row of lines. -/
def Lined (j : Journal) : Prop :=
  ∀ text, j.attachedText? = some text → ∃ lines, text = Session.block lines

lemma lined_of_session_eq_none (h : j.session = none) : j.Lined := by
  intro text htext
  obtain ⟨s, hs, -⟩ := attachedText?_eq_some_iff.mp htext
  cases h.symm.trans hs

lemma Lined.appendsLines (h : j.Lined) (happends : AppendsLines j j')
    (hpath : j'.sessionPath = j.sessionPath) : j'.Lined := by
  intro text htext
  obtain ⟨s', hs', hcontent⟩ := attachedText?_eq_some_iff.mp htext
  have hsession : s'.path ∈ j.sessionPath := hpath ▸ sessionPath_of_session hs'
  obtain ⟨s, hs, hsame⟩ := Option.mem_map.mp hsession
  rw [← hsame] at hcontent
  have hbefore {old : String} (hold : j.disk.content? s.path = some (.text old)) :
      ∃ lines, old = Session.block lines :=
    h old (attachedText?_eq_some_iff.mpr ⟨s, hs, hold⟩)
  rcases happends with hdisk | ⟨path, hpath, more, hdisk⟩
  · exact hbefore (hdisk ▸ hcontent)
  · obtain rfl : path = s.path := by
      rw [hsame]
      exact Option.mem_unique hpath hsession
    rw [hdisk] at hcontent
    obtain ⟨old, hold, hnew⟩ := content?_append_cases hcontent
    obtain ⟨lines, rfl⟩ := hbefore hold
    rcases hnew with rfl | rfl
    · exact ⟨lines, rfl⟩
    · exact ⟨lines ++ more, (Session.block_append _ _).symm⟩

/-- No event breaks the row of lines. -/
lemma Lined.next (h : j.Lined) (hstart : e = .start → j.session = none) : (j.next c e).Lined := by
  cases e with
  | record category message =>
    exact h.appendsLines (appendsLines_record _ _ _) (sessionPath_next (c := c) trivial)
  | title title => exact h.appendsLines (appendsLines_addSection _ _) (sessionPath_next trivial)
  | start =>
    have hnone := hstart rfl
    dsimp only [Journal.next]
    split
    · next s disk hcreate =>
      intro text htext
      obtain ⟨s', hs', hcontent⟩ := attachedText?_eq_some_iff.mp htext
      simp only [attach, detach, hnone] at hs' hcontent
      obtain rfl := Option.some.inj hs'
      exact Session.lined_of_create_eq_ok hcreate hcontent
    · exact lined_of_session_eq_none hnone
  | finish => exact lined_of_session_eq_none (session_next_finish c j)
  | sweep =>
    intro text htext
    obtain ⟨s, hs, hcontent⟩ := attachedText?_eq_some_iff.mp htext
    exact h text (attachedText?_eq_some_iff.mpr ⟨s, hs, content?_of_sweep hcontent⟩)
  | clock clock => exact h

lemma Lined.after (h : j.Lined) (hfits : j.Fits c events) : (j.after c events).Lined := by
  induction events generalizing j with
  | nil => exact h
  | cons e events ih => exact ih (h.next hfits.1) hfits.2.2

end Journal

/-! ### What records add -/

namespace Event

lemma exists_lines (clock : Clock) (e : Event) : ∃ lines, e.text clock = Session.block lines := by
  cases e with
  | record category message =>
    dsimp only [text]
    split
    · exact ⟨_, rfl⟩
    · exact ⟨[], rfl⟩
  | title t => exact ⟨Session.sectionTitle t, rfl⟩
  | _ => exact ⟨[], rfl⟩

lemma exists_lines_script (clock : Clock) (events : List Event) :
    ∃ lines, script clock events = Session.block lines := by
  induction events generalizing clock with
  | nil => exact ⟨[], rfl⟩
  | cons e events ih =>
    obtain ⟨front, hfront⟩ := e.exists_lines clock
    obtain ⟨back, hback⟩ := ih (e.clockAfter clock)
    exact ⟨front ++ back, by rw [script, hfront, hback, Session.block_append]⟩

end Event

namespace Journal

variable {c : Config} {j : Journal} {s : Session} {place : Place} {text : String}
  {events : List Event}

lemma Holds.attachedText? (h : j.Holds s place text) : j.attachedText? = some text :=
  attachedText?_eq_some_iff.mpr ⟨s, h.session, h.leads.content?_eq_some_iff.mpr h.content⟩

lemma TakesPart.exists_holds (h : j.TakesPart) (htext : j.attachedText? = some text) :
    ∃ s place, j.Holds s place text := by
  obtain ⟨s, hs, hcontent⟩ := attachedText?_eq_some_iff.mp htext
  obtain ⟨place, hstat⟩ := content?_eq_some_iff.mp hcontent
  obtain ⟨hleads, hlookup⟩ := stat_eq_file_iff.mp hstat
  exact ⟨s, place, hs, h s hs, hleads, hlookup⟩

/-- Records stand at the end of the file of the attached session. -/
lemma Holds.after_records (h : j.Holds s place text) (hfull : j.disk.full = false)
    (hrecords : ∀ e ∈ events, ∃ category message, e = .record category message) :
    (j.after c events).attachedText? = some (text ++ Event.script j.clock events) := by
  induction events generalizing j s text with
  | nil => simpa [Event.script] using h.attachedText?
  | cons e events ih =>
    obtain ⟨⟨category, message, rfl⟩, hrest⟩ := List.forall_mem_cons.mp hrecords
    have hfull' : (j.next c (.record category message)).disk.full = false :=
      (j.appends_record _ _).full.trans hfull
    have hadded := ih (h.record (c := c) hfull category message) hfull' hrest
    rwa [clock_next, String.append_assoc] at hadded

end Journal

/-! ### The record of a copy -/

namespace Watchdog

variable {w : Watchdog σ} {Q : Watch → Prop}

namespace Routine

variable (hQ : w.Routine Q)

include hQ

lemma keeps_showCopy (copy : Copy) :
    Keeps (fun s : Scene σ Watch => Q s.around) (w.showCopy copy) :=
  (hQ.keeps_onStatus fun _ => by rfl).bind fun _ => hQ.keeps_emit

lemma keeps_checkHelper (copy : Copy) :
    Keeps (fun s : Scene σ Watch => Q s.around) (w.checkHelper copy) :=
  hQ.keeps_recordHealth.bind fun health =>
    .ite ((hQ.keeps_record (.needsRestart health)).bind fun _ => .pure _)
      (.ite ((hQ.keeps_record (.scheduled copy)).bind fun _ => .pure _) (.pure _))

lemma keeps_follow (reason? : Option Reason) :
    Keeps (fun s : Scene σ Watch => Q s.around) (w.follow reason?) := by
  cases reason? with
  | none => exact .pure _
  | some reason => exact (hQ.keeps_remediate reason).bind fun _ => .pure _

end Routine

lemma exists_record_of_sent {e : Event} (h : w.Sent e) :
    ∃ category message, e = .record category message := by
  cases e with
  | record category message => exact ⟨category, message, rfl⟩
  | _ => exact h.elim

/-- All that follows from the record of a copy is further records. -/
lemma goes_onPoll {poll : Poll} {copy : Copy} (hpoll : poll.outcome = .changed copy)
    {s : Scene σ Watch} {m : Moment} (hread : s.around.journal.clock.read = .ok m) :
    w.Goes (s.around.journal.next w.config (.record .info (copy.line poll.snapshot))) []
      ((w.onPoll poll).run.run s).2.around := by
  have hroutine : w.Routine
      (w.Goes (s.around.journal.next w.config (.record .info (copy.line poll.snapshot))) []) :=
    routine_goes
  have hrecord := Journal.record_fst_of_takesRecords (Journal.takesRecords_of_read hread)
    (some .info) (copy.line poll.snapshot)
  rw [onPoll_eq, lead, hpoll]
  dsimp only
  rw [bind_assoc, run_run_bind, run_note]
  simp only [Journal.info, hrecord, Except.mapError]
  have htold : Keeps (fun s' : Scene σ Watch => w.Goes
      (s.around.journal.next w.config (.record .info (copy.line poll.snapshot))) [] s'.around)
      (do w.showCopy copy; w.checkHelper copy : Work σ (Option Reason)) :=
    (hroutine.keeps_showCopy copy).bind fun _ => hroutine.keeps_checkHelper copy
  refine Keeps.bind (.ite ?_ htold) hroutine.keeps_follow _ ⟨[], rfl, by simp, rfl⟩
  exact (hroutine.keeps_record (.signalMissing copy)).bind fun _ => htold

/-- The same of a whole tick that counts a copy. -/
lemma goes_pollOnce {s : Scene σ Watch} {o : Observation} {copy : Copy} {m : Moment}
    (hcopy : (s.around.monitor.counter.take (w.reading o)).1 = .changed copy)
    (hread : s.around.journal.clock.read = .ok m) :
    w.Goes (s.around.journal.next w.config
        (.record .info (copy.line (some ⟨copy.sequence, some copy.text, [], m⟩)))) []
      ((w.pollOnce o).run.run s).2.around := by
  let poll : Poll := ⟨.changed copy, some ⟨copy.sequence, some copy.text, [], m⟩⟩
  have hpoll : Poll.ofOutcome s.around.journal.clock (.changed copy) = .ok poll := by
    simp only [Poll.ofOutcome, hread, bind, Except.bind, pure, Except.pure, poll]
  have hgoes : w.Goes
      ((w.told s o).around.journal.next w.config (.record .info (copy.line poll.snapshot))) []
      ((w.onPoll poll).run.run (w.told s o)).2.around := goes_onPoll rfl hread
  unfold pollOnce
  rw [run_run_bind, run_tick_told, hcopy, hpoll]
  exact hgoes

variable (w)

/-- In every run the file of the attached session holds lines, and the session takes more. -/
lemma lined_served (host : σ) (disk : Disk) (clock : Clock) (steps : List (Clock × Activity)) :
    (w.served (w.opening host disk clock) steps).around.journal.Lined ∧
      (w.served (w.opening host disk clock) steps).around.journal.TakesPart := by
  obtain ⟨events, hhistory⟩ := w.exists_history (w.opening host disk clock) steps
  rw [hhistory.journal]
  exact ⟨(Journal.lined_of_session_eq_none rfl).after hhistory.fits,
    Journal.takesPart_after (by rintro s ⟨⟩)⟩

/-- Whatever text was copied, a preview of it is its one core, or the start of the core and three
dots, and has no control characters. So in every run the record of a copy that polling counts, which
shows its number and such a preview, is one line of the file of the attached session, if the file
stands, the disk is not full, and the clock can be read. -/
theorem copied_text_on_one_line (host : σ) (disk : Disk) (clock : Clock)
    (steps : List (Clock × Activity)) (now : Clock) (o : Observation) :
    (∀ (s : Snapshot) (text : String) (most : ℕ), s.text = some text →
      ∃ shown, (∀ core, IsTrimmed (flatten text.toList) core ↔ core = shown) ∧
        (s.preview most).toList =
          (if shown.length ≤ most then shown else shown.take most ++ ['.', '.', '.']) ∧
        (∀ c ∈ (s.preview most).toList, isControl c = false) ∧
        (s.preview most).length ≤ most + 3) ∧
    let s := (w.served (w.opening host disk clock) steps).withClock now
    let t := ((w.pollOnce o).run.run s).2
    ∀ copy m, (s.around.monitor.counter.take (w.reading o)).1 = .changed copy →
      now.read = .ok m → s.around.journal.disk.full = false →
      s.around.journal.attachedText?.isSome = true →
        let shown : Snapshot := ⟨copy.sequence, some copy.text, [], m⟩
        let line := Session.line m (some .info) (copy.line (some shown))
        (∃ middle, copy.line (some shown) = "Copy #" ++ decimal copy.number ++ " detected | seq=" ++
          middle ++ " | \"" ++ shown.preview previewLength ++ "\"") ∧
        OneLine line ∧ ∃ before after,
          s.around.journal.attachedText? = some (Session.block before) ∧
          t.around.journal.attachedText? = some (Session.block (before ++ line :: after)) := by
  refine ⟨fun s text most h => ?_, ?_⟩
  · obtain ⟨shown, hcore, hshown⟩ := Snapshot.exists_shown h most
    exact ⟨shown, hcore, hshown, fun _ => not_isControl_of_mem_preview,
      Snapshot.length_preview_le h most⟩
  intro s t copy m hcopy hread hfull htext shown line
  obtain ⟨hlined, hpart⟩ := w.lined_served host disk clock steps
  have hpart : s.around.journal.TakesPart := hpart
  obtain ⟨old, hold⟩ := Option.isSome_iff_exists.mp htext
  obtain ⟨before, rfl⟩ := hlined old hold
  obtain ⟨session, place, hheld⟩ := hpart.exists_holds hold
  obtain ⟨records, hjournal, hsent⟩ := (goes_pollOnce hcopy hread).sent
  have hrecords : ∀ e ∈ Event.record .info (copy.line (some shown)) :: records,
      ∃ category message, e = .record category message :=
    List.forall_mem_cons.mpr ⟨⟨_, _, rfl⟩, fun e he => exists_record_of_sent (hsent e he)⟩
  have hadded := hheld.after_records (c := w.config) hfull hrecords
  have hline : (Event.record .info (copy.line (some shown))).text now = Session.block [line] := by
    simp only [Event.text, hread, line]
  obtain ⟨after, hafter⟩ := Event.exists_lines_script now records
  refine ⟨copy.exists_line_eq shown, Session.oneLine_line_iff.mpr (copy.oneLine_line _), before,
    after, hold, ?_⟩
  calc t.around.journal.attachedText?
      = some (Session.block before ++ ((Event.record .info (copy.line (some shown))).text now ++
          Event.script now records)) := by rw [hjournal]; exact hadded
    _ = some (Session.block (before ++ line :: after)) := by
      rw [hline, hafter, ← Session.block_append, ← Session.block_append, List.singleton_append]

open ProcessTable

/-- A text of two lines is shown on one. -/
theorem copied_text_on_one_line_twoLines :
    let clock : Clock := ⟨⟨1773047107, 0⟩⟩
    let o : Observation := ⟨1, [], .answered (.ok "one\r\ntwo\n"), 1⟩
    let s := (answering.served (answering.opening sound .empty clock)
      [(clock, .operation .enable)]).withClock clock
    let t := ((answering.pollOnce o).run.run s).2
    let copy : Copy := ⟨1, false, false, 1, "one\r\ntwo\n"⟩
    let shown : Snapshot := ⟨1, some copy.text, [], ⟨1773047107, 0⟩⟩
    let line := Session.line ⟨1773047107, 0⟩ (some .info) (copy.line (some shown))
    shown.preview previewLength = "one  two" ∧
      (s.around.monitor.counter.take (answering.reading o)).1 = .changed copy ∧
      s.around.journal.disk.full = false ∧ s.around.journal.attachedText?.isSome = true ∧
      (∃ middle, copy.line (some shown) = "Copy #" ++ decimal copy.number ++ " detected | seq=" ++
        middle ++ " | \"" ++ shown.preview previewLength ++ "\"") ∧
      OneLine line ∧ ∃ before after,
        s.around.journal.attachedText? = some (Session.block before) ∧
        t.around.journal.attachedText? = some (Session.block (before ++ line :: after)) := by
  intro clock o s t copy shown line
  have hcopy : (s.around.monitor.counter.take (answering.reading o)).1 = .changed copy := by
    decide +kernel
  have hfull : s.around.journal.disk.full = false := by decide +kernel
  have htext : s.around.journal.attachedText?.isSome = true := by decide +kernel
  have hlines := (answering.copied_text_on_one_line sound .empty clock
    [(clock, .operation .enable)] clock o).2
  extract_lets at hlines
  exact ⟨by decide +kernel, hcopy, hfull, htext,
    hlines copy ⟨1773047107, 0⟩ hcopy (by decide) hfull htext⟩

end Watchdog

end ClipboardWatchdog
