import ClipboardWatchdog.Proofs.Watchdog.PollingResets
import ClipboardWatchdog.Proofs.Watchdog.Serving

/-!
# Records and lines

A record that goes into the file of a session begins with the time and its category, and should be
one line of it. It is, unless a text from outside that it shows breaks the line
(`record_adds_line_iff`): of those only the text of the clipboard is shown on one line whatever it
is.
-/

namespace ClipboardWatchdog

open Disk

variable {σ : Type}

/-- One line is added to the file of the path: it begins with a time and the category, and in front
of its end there is nothing that ends a line. -/
def AddsOneLine (before after : Disk) (path : Path) (category : Category) : Prop :=
  ∃ old now message, before.content? path = some (.text old) ∧
    after.content? path =
      some (.text (old ++ (Session.line now (some category) message ++ "\r\n"))) ∧
    OneLine (Session.line now (some category) message)

/-- A line that is added makes a difference. -/
lemma AddsOneLine.content?_ne {before after : Disk} {path : Path} {category : Category}
    (h : AddsOneLine before after path category) : after.content? path ≠ before.content? path := by
  obtain ⟨old, now, message, hbefore, hafter, -⟩ := h
  have hend : "\r\n" ≠ "" := by decide
  simp [hbefore, hafter, hend]

/-- A record of a session that is open adds one line to its file exactly if the disk takes it, the
file stands, and the message is on one line. -/
lemma Session.addsOneLine_recordAt_iff {s : Session} (hopen : s.isOpen = true) {d : Disk}
    {now : Moment} {category : Category} {message : String} :
    AddsOneLine d (s.recordAt d now (some category) message).2 s.path category ↔
      d.full = false ∧ (∃ old, d.content? s.path = some (.text old)) ∧ OneLine message := by
  have hblock : block [line now (some category) message] =
      line now (some category) message ++ "\r\n" := String.append_empty
  rw [s.recordAt_snd hopen, hblock]
  constructor
  · intro h
    cases hfull : d.full with
    | true => exact absurd (by rw [append_snd_of_full hfull]) h.content?_ne
    | false =>
      obtain ⟨old, now', message', hbefore, hafter, hone⟩ := h
      rw [content?_append hbefore hfull, Option.some.injEq, Content.text.injEq,
        String.append_right_inj, String.append_left_inj] at hafter
      rw [← hafter, oneLine_line_iff] at hone
      exact ⟨rfl, ⟨old, hbefore⟩, hone⟩
  · rintro ⟨hfull, ⟨old, hold⟩, hone⟩
    exact ⟨old, now, message, hold, content?_append hold hfull _, oneLine_line_iff.mpr hone⟩

/-- If the path is that of the attached session, the line is added to its text. -/
lemma AddsOneLine.attachedText? {j j' : Journal} {path : Path} {category : Category}
    (h : AddsOneLine j.disk j'.disk path category) (hpath : path ∈ j.sessionPath)
    (hpath' : path ∈ j'.sessionPath) :
    ∃ old line, j.attachedText? = some old ∧ j'.attachedText? = some (old ++ (line ++ "\r\n")) ∧
      OneLine line := by
  obtain ⟨old, now, message, hbefore, hafter, hone⟩ := h
  obtain ⟨s, hs, rfl⟩ := Option.mem_map.mp hpath
  obtain ⟨s', hs', hpath'⟩ := Option.mem_map.mp hpath'
  exact ⟨old, _, Journal.attachedText?_eq_some_iff.mpr ⟨s, hs, hbefore⟩,
    Journal.attachedText?_eq_some_iff.mpr ⟨s', hs', hpath' ▸ hafter⟩, hone⟩

/-! ### The attached session is open -/

namespace Session

lemma isOpen_recordAt (s : Session) (d : Disk) (now : Moment) (category : Option Category)
    (message : String) : (s.recordAt d now category message).1.isOpen = s.isOpen := by
  unfold recordAt
  split
  · split <;> rfl
  · rfl

lemma isOpen_addSection (s : Session) (d : Disk) (title : String) :
    (s.addSection d title).1.isOpen = s.isOpen := by
  unfold addSection
  split <;> rfl

/-- A session that is created is open. -/
lemma isOpen_of_create_eq_ok {d d' : Disk} {clock : Clock} {origin : Origin} {dir : Path}
    {base : String} {role : Role} {helper : String} {s : Session}
    (h : create d clock origin dir base role helper = (.ok s, d')) : s.isOpen = true := by
  obtain ⟨now, path, made, -, -, hstart⟩ := exists_start_of_create_eq_ok h
  rw [← (Prod.mk.inj hstart).1]

end Session

namespace Journal

variable {c : Config} {j : Journal} {e : Event} {events : List Event}

/-- Without the time of day nothing is added. -/
lemma addsOneLine_record_iff {s : Session} (hs : j.session = some s) (hopen : s.isOpen = true)
    {category : Category} {message : String} :
    AddsOneLine j.disk (j.next c (.record category message)).disk s.path category ↔
      (∃ now, j.clock.read = .ok now) ∧ j.disk.full = false ∧
        (∃ old, j.disk.content? s.path = some (.text old)) ∧ OneLine message := by
  have hnext : j.next c (.record category message) = (j.record (some category) message).2 := rfl
  rw [hnext]
  cases hread : j.clock.read with
  | error cause =>
    rw [record_of_unreadable hread (by simp [isRecording, hs])]
    refine iff_of_false (fun h => h.content?_ne rfl) ?_
    rintro ⟨⟨now, hnow⟩, -⟩
    cases hnow
  | ok now =>
    have hdisk : (j.record (some category) message).2.disk =
        (s.recordAt j.disk now (some category) message).2 := by
      simp [record, hs, Session.record, hread, bind, Except.bind, pure, Except.pure]
    rw [hdisk, Session.addsOneLine_recordAt_iff hopen]
    simp

/-- The session that is attached, if there is one, takes records. -/
def TakesPart (j : Journal) : Prop := ∀ s ∈ j.session, s.isOpen = true

lemma takesPart_record (h : j.TakesPart) (category : Option Category) (message : String) :
    (j.record category message).2.TakesPart := by
  unfold record
  split
  · exact h
  · next s hs =>
    cases hread : j.clock.read with
    | error cause =>
      simp only [Session.record, hread, bind, Except.bind]
      exact h
    | ok now =>
      simp only [Session.record, hread, bind, Except.bind, pure, Except.pure]
      rintro _ ⟨⟩
      exact (s.isOpen_recordAt _ _ _ _).trans (h s hs)

lemma takesPart_addSection (h : j.TakesPart) (title : String) : (j.addSection title).TakesPart := by
  unfold addSection
  split
  · exact h
  · next s hs =>
    rintro _ ⟨⟩
    exact (s.isOpen_addSection _ _).trans (h s hs)

lemma takesPart_next (h : j.TakesPart) : (j.next c e).TakesPart := by
  cases e with
  | record category message => exact takesPart_record h _ _
  | title title => exact takesPart_addSection h title
  | start =>
    dsimp only [next]
    split
    · next s disk hcreate =>
      rintro _ ⟨⟩
      exact Session.isOpen_of_create_eq_ok hcreate
    · exact h
  | finish =>
    intro s hs
    cases (session_next_finish c j).symm.trans hs
  | sweep => exact h
  | clock clock => exact h

lemma takesPart_after (h : j.TakesPart) : (j.after c events).TakesPart := by
  induction events generalizing j with
  | nil => exact h
  | cons e events ih => exact ih (takesPart_next h)

end Journal

namespace Watchdog

variable (w : Watchdog σ)

/-- A record that is sent in a run is on one line if all texts from outside that it shows are. -/
lemma History.oneLine_iff {w : Watchdog σ} {s : Scene σ Watch} {steps : List (Clock × Activity)}
    {events : List Event} (h : w.History s steps events) {category : Category} {message : String}
    (hmem : .record category message ∈ events) :
    OneLine message ↔ ∀ t, w.External (Tells steps) t → Shows message t → OneLine t := by
  constructor
  · exact fun hone t _ hshown => hone.of_shows hshown
  · intro hall
    rcases h.record hmem with hsent | ⟨n, latency, htold, -, rfl⟩
    · exact hsent.oneLine hall
    · exact Notification.oneLine_line fun f hf hshown => hall f.name (.format htold hf) hshown

/-- The last event of a run that ends with a notification is the record of it. -/
lemma History.exists_last {w : Watchdog σ} {s : Scene σ Watch} {steps : List (Clock × Activity)}
    {events : List Event} {clock : Clock} {n : Notification} {latency : Span}
    (h : w.History s (steps ++ [(clock, .operation (.notify n latency))]) events) :
    ∃ front, events = front ++ [.record n.category (n.line latency)] ∧
      s.around.journal.after w.config front =
        ((w.served s steps).withClock clock).around.journal := by
  induction steps generalizing s events with
  | nil =>
    cases h with
    | @cons _ _ _ row _ hrow _ hrest =>
      cases hrest
      obtain rfl : row = [.record n.category (n.line latency)] := hrow
      exact ⟨[.clock clock], rfl, rfl⟩
  | cons step steps ih =>
    cases h with
    | @cons _ _ _ row _ _ hjournal hrest =>
      obtain ⟨front, rfl, hfront⟩ := ih hrest
      refine ⟨.clock step.1 :: row ++ front, (List.append_assoc ..).symm, ?_⟩
      rw [Journal.after_append, ← hjournal]
      exact hfront

/-- It goes into the file of a session that is attached at its time. -/
lemma History.exists_last_attached {w : Watchdog σ} {s : Scene σ Watch}
    {steps : List (Clock × Activity)} {events : List Event} {clock : Clock} {n : Notification}
    {latency : Span} (h : w.History s (steps ++ [(clock, .operation (.notify n latency))]) events)
    (hfull : ((w.served s steps).withClock clock).around.journal.disk.full = false)
    (htext : ((w.served s steps).withClock clock).around.journal.attachedText?.isSome) :
    ∃ front session, events = front ++ [.record n.category (n.line latency)] ∧
      let j := s.around.journal.after w.config front
      j.session = some session ∧ j.clock = clock ∧ j.disk.full = false ∧
        ∃ text, j.disk.content? session.path = some (.text text) := by
  obtain ⟨front, rfl, hfront⟩ := h.exists_last
  obtain ⟨text, htext⟩ := Option.isSome_iff_exists.mp htext
  obtain ⟨session, hsession, hcontent⟩ := Journal.attachedText?_eq_some_iff.mp htext
  refine ⟨front, session, rfl, ?_⟩
  rw [hfront]
  exact ⟨hsession, rfl, hfull, text, hcontent⟩

/-- In every run, a record that is sent while a session is attached adds one line to its file, with
the time and its category, exactly if the clock can be read, the disk takes the record, the file
stands, and each text that the record shows of those from outside is on one line: the name of the
helper, the names of formats, and the texts of the host's errors and faults. Whatever text the
clipboard holds has no part in it. -/
theorem record_adds_line_iff (host : σ) (disk : Disk) (clock : Clock)
    (steps : List (Clock × Activity)) :
    let start := w.opening host disk clock
    let journal (events : List Event) := start.around.journal.after w.config events
    (∃ events, w.History start steps events) ∧
      ∀ events, w.History start steps events →
        (w.served start steps).around.journal = journal events ∧
          ∀ front category message back s, events = front ++ .record category message :: back →
            (journal front).session = some s →
            (AddsOneLine (journal front).disk (journal (front ++ [.record category message])).disk
                s.path category ↔
              (∃ now, (journal front).clock.read = .ok now) ∧ (journal front).disk.full = false ∧
                (∃ text, (journal front).disk.content? s.path = some (.text text)) ∧
                ∀ t, w.External (Tells steps) t → Shows message t → OneLine t) := by
  intro start journal
  refine ⟨w.exists_history start steps, fun events h => ⟨h.journal, ?_⟩⟩
  rintro front category message back s rfl hs
  have hopen : (journal front).TakesPart := Journal.takesPart_after (by rintro s ⟨⟩)
  have hnext : journal (front ++ [.record category message]) =
      (journal front).next w.config (.record category message) := Journal.after_concat _ _ _ _
  have hmem : .record category message ∈ front ++ .record category message :: back := by simp
  rw [hnext, Journal.addsOneLine_record_iff hs (hopen s hs), h.oneLine_iff hmem]

end Watchdog

/-- A first notification, with one format of this name on offer. -/
def Notification.offering (name : String) : Notification :=
  ⟨.baseline, ⟨1, none, [⟨49161, name⟩], ⟨0, 0⟩⟩⟩

namespace Watchdog

open ProcessTable

theorem record_adds_line_iff_plain :
    let clock : Clock := ⟨⟨1773047107, 0⟩⟩
    let told := Notification.offering "HTML Format"
    let enable : List (Clock × Activity) := [(clock, .operation .enable)]
    let steps := enable ++ [(clock, .operation (.notify told ⟨0, 0⟩))]
    let start := answering.opening sound .empty clock
    let journal (events : List Event) := start.around.journal.after answering.config events
    ∃ front s, answering.History start steps (front ++ [.record .diag (told.line ⟨0, 0⟩)]) ∧
      (journal front).session = some s ∧
      AddsOneLine (journal front).disk
        (journal (front ++ [.record .diag (told.line ⟨0, 0⟩)])).disk s.path .diag := by
  intro clock told enable steps start journal
  have hread : clock.read = .ok ⟨1773047107, 0⟩ := by decide
  have hone : OneLine (told.line ⟨0, 0⟩) := by decide +kernel
  obtain ⟨⟨events, hhistory⟩, hevents⟩ := answering.record_adds_line_iff sound .empty clock steps
  obtain ⟨front, s, rfl, hs, hclock, hfull, htext⟩ :=
    hhistory.exists_last_attached (by decide +kernel) (by decide +kernel)
  obtain ⟨-, hiff⟩ := hevents _ hhistory
  exact ⟨front, s, hhistory, hs, (hiff front .diag _ [] s rfl hs).mpr
    ⟨⟨_, hclock ▸ hread⟩, hfull, htext, fun t _ hshown => hone.of_shows hshown⟩⟩

/-- The name of a format can break its record into two lines. -/
theorem record_adds_two_lines :
    let clock : Clock := ⟨⟨1773047107, 0⟩⟩
    let told := Notification.offering "HTML\r\nFormat"
    let s := answering.served (answering.opening sound .empty clock) [(clock, .operation .enable)]
    let t := answering.serve s (clock, .operation (.notify told ⟨0, 0⟩))
    let lines := ["[09:05:07.000] [DIAG] Clipboard event: baseline | seq=1 | hash=- | len=0 | " ++
      "formats=[49161:HTML", "Format] | latency=0ms"]
    s.around.journal.attachedText?.isSome ∧
      t.around.journal.attachedText? =
        s.around.journal.attachedText?.map (· ++ Session.block lines) ∧
      ∀ path ∈ s.around.journal.sessionPath,
        ¬AddsOneLine s.around.journal.disk t.around.journal.disk path .diag := by
  intro clock told s t lines
  have hattached : s.around.journal.attachedText?.isSome := by decide +kernel
  have hadded : t.around.journal.attachedText? =
      s.around.journal.attachedText?.map (· ++ Session.block lines) := by decide +kernel
  have hpaths : t.around.journal.sessionPath = s.around.journal.sessionPath := by decide +kernel
  clear_value s t
  refine ⟨hattached, hadded, fun path hpath hline => ?_⟩
  obtain ⟨old, line, hbefore, hafter, hone⟩ := hline.attachedText? hpath (hpaths ▸ hpath)
  rw [hbefore, hafter, Option.map_some, Option.some.injEq, String.append_right_inj] at hadded
  have hlines : Session.block lines = lines[0] ++ "\r\n" ++ lines[1] ++ "\r\n" := by decide +kernel
  rw [hlines, String.append_left_inj] at hadded
  rw [hadded] at hone
  revert hone
  decide +kernel

end Watchdog

end ClipboardWatchdog
