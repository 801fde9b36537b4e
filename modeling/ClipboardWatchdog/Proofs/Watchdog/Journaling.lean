import ClipboardWatchdog.Proofs.Session.Lifecycle
import ClipboardWatchdog.Proofs.Watchdog.ActiveSession

/-!
# What reaches the files of sessions

A journal meets `Event`s: a record or the title of a section is written, a session is started or
finished, old session files are swept away, and the clock goes on. What an event adds to the file of
the attached session depends on the event and the clock alone (`Event.script`); no event touches
another file, except that a sweep may remove it.
-/

namespace ClipboardWatchdog

open Disk

/-- What a journal can meet. -/
inductive Event
  | record (category : Category) (message : String)
  | title (title : String)
  | start
  | finish
  | sweep
  | clock (clock : Clock)
  deriving DecidableEq

namespace Event

/-- The event neither starts nor finishes a session. -/
def IsInside : Event → Prop
  | start | finish => False
  | _ => True

/-- What the event adds to the file of the attached session. -/
def text (clock : Clock) : Event → String
  | .record category message =>
    match clock.read with
    | .ok now => Session.block [Session.line now (some category) message]
    | .error _ => ""
  | .title t => Session.block (Session.sectionTitle t)
  | _ => ""

/-- How many records the event adds to the file of the attached session. -/
def records (clock : Clock) : Event → ℕ
  | .record _ _ =>
    match clock.read with
    | .ok _ => 1
    | .error _ => 0
  | _ => 0

/-- What the clock shows after the event. -/
def clockAfter (c : Clock) : Event → Clock
  | .clock later => later
  | _ => c

/-- What a row of events adds to the file of the attached session, from a time that a clock
shows. -/
def script (clock : Clock) : List Event → String
  | [] => ""
  | e :: events => e.text clock ++ script (e.clockAfter clock) events

/-- How many records a row of events adds to the file of the attached session. -/
def recordsIn (clock : Clock) : List Event → ℕ
  | [] => 0
  | e :: events => e.records clock + recordsIn (e.clockAfter clock) events

/-- What a row of events leaves in the log of the process: its records, in their order. -/
def logged (events : List Event) : List (Level × String) :=
  events.filterMap fun
    | .record category message => some (.ofCategory (some category), message)
    | _ => none

end Event

namespace Session

lemma recordAt_snd (s : Session) (h : s.isOpen = true) (d : Disk) (now : Moment)
    (category : Option Category) (message : String) :
    (s.recordAt d now category message).2 =
      (d.append s.path (block [line now category message])).2 := by
  unfold recordAt
  rw [if_pos h]
  rcases d.append s.path (block [line now category message]) with ⟨_ | _, _⟩ <;> rfl

end Session

namespace Journal

/-- The journal after an event, under a configuration. -/
def next (c : Config) (j : Journal) : Event → Journal
  | .record category message => (j.record (some category) message).2
  | .title title => j.addSection title
  | .start =>
    match Session.create j.disk j.clock c.origin c.logDirectory c.logBase c.role c.helper with
    | (.ok session, disk) => ({ j with disk }.attach session).2
    | (.error _, disk) => { j with disk }
  | .finish => j.detach.2
  | .sweep => { j with disk := (Session.sweep j.disk c.logDirectory c.logBase c.logRetention).2 }
  | .clock clock => { j with clock }

/-- The journal after a row of events. -/
def after (c : Config) (j : Journal) (events : List Event) : Journal := events.foldl (next c) j

variable {c : Config} {j : Journal} {e : Event} {events : List Event}

@[simp] lemma after_nil (c : Config) (j : Journal) : j.after c [] = j := rfl

@[simp] lemma after_cons (c : Config) (j : Journal) (e : Event) (events : List Event) :
    j.after c (e :: events) = (j.next c e).after c events := rfl

lemma after_append (c : Config) (j : Journal) (front back : List Event) :
    j.after c (front ++ back) = (j.after c front).after c back := List.foldl_append

lemma after_concat (c : Config) (j : Journal) (events : List Event) (e : Event) :
    j.after c (events ++ [e]) = (j.after c events).next c e := by
  rw [after_append]
  rfl

/-! ### The log -/

lemma log_record (j : Journal) (category : Option Category) (message : String) :
    (j.record category message).2.log = j.log ++ [(.ofCategory category, message)] := by
  unfold record
  split
  · rfl
  · next s _ => cases s.record j.disk j.clock category message <;> rfl

lemma log_addSection (j : Journal) (title : String) : (j.addSection title).log = j.log := by
  cases h : j.session <;> simp [addSection, h]

lemma log_detach (j : Journal) : j.detach.2.log = j.log := by
  unfold detach
  split
  · rfl
  · next s _ => cases s.close j.disk j.clock <;> rfl

/-- Of all events only records reach the log. -/
lemma log_next (c : Config) (j : Journal) (e : Event) :
    (j.next c e).log = j.log ++ Event.logged [e] := by
  cases e with
  | record category message => exact log_record j _ _
  | title title => exact (log_addSection _ _).trans (List.append_nil _).symm
  | start =>
    unfold next
    dsimp only
    split
    · exact (log_detach _).trans (List.append_nil _).symm
    · exact (List.append_nil _).symm
  | finish => exact (log_detach _).trans (List.append_nil _).symm
  | sweep => exact (List.append_nil _).symm
  | clock clock => exact (List.append_nil _).symm

lemma log_after (c : Config) (j : Journal) (events : List Event) :
    (j.after c events).log = j.log ++ Event.logged events := by
  induction events generalizing j with
  | nil => exact (List.append_nil _).symm
  | cons e events ih =>
    have hcons : Event.logged ([e] ++ events) = Event.logged [e] ++ Event.logged events :=
      List.filterMap_append
    rw [after_cons, ih, log_next, List.append_assoc, ← hcons]
    rfl

/-! ### Events that append -/

/-- At most the file of the attached session has been appended to. -/
def Appends (j j' : Journal) : Prop :=
  j'.disk = j.disk ∨ ∃ path ∈ j.sessionPath, ∃ text, j'.disk = (j.disk.append path text).2

/-- What has been appended is lines. -/
def AppendsLines (j j' : Journal) : Prop :=
  j'.disk = j.disk ∨
    ∃ path ∈ j.sessionPath, ∃ lines, j'.disk = (j.disk.append path (Session.block lines)).2

lemma AppendsLines.appends {j' : Journal} (h : AppendsLines j j') : Appends j j' :=
  h.imp_right fun ⟨path, hpath, _, hdisk⟩ => ⟨path, hpath, _, hdisk⟩

namespace Appends

variable {j' : Journal} {place : Place}

lemma full (h : Appends j j') : j'.disk.full = j.disk.full := by
  rcases h with h | ⟨path, -, text, h⟩
  · rw [h]
  · rw [h, full_append]

lemma keepsDirectories (h : Appends j j') : j.disk.KeepsDirectories j'.disk := by
  rcases h with h | ⟨path, -, text, h⟩
  · rw [h]
    exact fun _ => id
  · rw [h]
    exact keepsDirectories_append _ _ _

lemma lookup (h : Appends j j') (hs : ∀ path ∈ j.sessionPath, ¬j.disk.Leads path place) :
    j'.disk.lookup place = j.disk.lookup place := by
  rcases h with h | ⟨path, hpath, text, h⟩
  · rw [h]
  · rw [h]
    exact lookup_append_of_not_leads (hs path hpath) text

lemma lookup_eq_none_iff (h : Appends j j') :
    j'.disk.lookup place = none ↔ j.disk.lookup place = none := by
  rcases h with h | ⟨path, -, text, h⟩
  · rw [h]
  · rw [h]
    exact lookup_append_eq_none_iff text

end Appends

lemma sessionPath_of_session {s : Session} (h : j.session = some s) : s.path ∈ j.sessionPath := by
  simp [sessionPath, h]

lemma appendsLines_record (j : Journal) (category : Option Category) (message : String) :
    AppendsLines j (j.record category message).2 := by
  unfold record
  split
  · exact .inl rfl
  · next s hs =>
    cases hread : j.clock.read with
    | error fault =>
      simp only [Session.record, hread, bind, Except.bind]
      exact .inl rfl
    | ok now =>
      simp only [Session.record, hread, bind, Except.bind, pure, Except.pure]
      cases hopen : s.isOpen with
      | true => exact .inr ⟨s.path, sessionPath_of_session hs, _, s.recordAt_snd hopen _ _ _ _⟩
      | false => exact .inl (by simp [Session.recordAt, hopen])

lemma appendsLines_addSection (j : Journal) (title : String) :
    AppendsLines j (j.addSection title) := by
  unfold addSection
  split
  · exact .inl rfl
  · next s hs =>
    dsimp only [Session.addSection]
    split
    · exact .inr ⟨s.path, sessionPath_of_session hs, _, rfl⟩
    · exact .inl rfl

lemma appendsLines_detach (j : Journal) : AppendsLines j j.detach.2 := by
  unfold detach
  split
  · exact .inl rfl
  · next s hs =>
    cases hread : j.clock.read with
    | error fault =>
      simp only [Session.close, hread, bind, Except.bind]
      exact .inl rfl
    | ok now =>
      simp only [Session.close, hread, bind, Except.bind, pure, Except.pure, Session.closeAt]
      split
      · exact .inr ⟨s.path, sessionPath_of_session hs, _, rfl⟩
      · exact .inl rfl

lemma appends_record (j : Journal) (category : Option Category) (message : String) :
    Appends j (j.record category message).2 := (j.appendsLines_record category message).appends

lemma appends_addSection (j : Journal) (title : String) : Appends j (j.addSection title) :=
  (j.appendsLines_addSection title).appends

lemma appends_detach (j : Journal) : Appends j j.detach.2 := j.appendsLines_detach.appends

/-! ### What an event leaves alone -/

variable {place : Place} {content : Content}

/-- An attempt to start a session leaves none, and at most directories; or a new session is
attached. -/
lemma next_start (hfull : j.disk.full = false) (hnone : j.session = none) :
    ((j.next c .start) = { j with disk := (j.disk.ensureDirectory c.logDirectory).2 } ∨
      ∃ s disk now place, j.clock.read = .ok now ∧
        j.next c .start = { j with disk, session := some s } ∧
        Session.IsNew j.disk disk now c.origin c.role c.helper s place) := by
  unfold next
  dsimp only
  split
  · next session disk hcreate =>
    obtain ⟨now, place, hread, hnew⟩ := Session.isNew_of_create_eq_ok hfull hcreate
    refine .inr ⟨session, disk, now, place, hread, ?_, hnew⟩
    simp only [attach, detach, hnone]
  · next disk hcreate =>
    rw [Session.disk_of_create_eq_error hcreate]
    exact .inl rfl

/-- Every event but a start or a sweep appends at most. -/
lemma appends_next (hstart : e ≠ .start) (hsweep : e ≠ .sweep) : Appends j (j.next c e) := by
  cases e with
  | record category message => exact appends_record _ _ _
  | title title => exact appends_addSection _ _
  | start => exact absurd rfl hstart
  | finish => exact appends_detach _
  | sweep => exact absurd rfl hsweep
  | clock clock => exact .inl rfl

lemma full_next (hstart : e = .start → j.session = none) (hfull : j.disk.full = false) :
    (j.next c e).disk.full = false := by
  by_cases he : e = .start
  · subst he
    rcases next_start (c := c) hfull (hstart rfl) with h | ⟨s, disk, now, place, -, h, hnew⟩
    · rw [h]
      exact (grown_of_ensureDirectory _ _).full.trans hfull
    · rw [h]
      exact hnew.full.trans hfull
  · by_cases hsweep : e = .sweep
    · subst hsweep
      exact (Session.full_sweep _ _ _ _).trans hfull
    · exact (appends_next he hsweep).full.trans hfull

lemma keepsDirectories_next (hstart : e = .start → j.session = none)
    (hfull : j.disk.full = false) : j.disk.KeepsDirectories (j.next c e).disk := by
  by_cases he : e = .start
  · subst he
    rcases next_start (c := c) hfull (hstart rfl) with h | ⟨s, disk, now, place, -, h, hnew⟩
    · rw [h]
      exact (grown_of_ensureDirectory _ _).keepsDirectories
    · rw [h]
      exact fun place => hnew.kept place _
  · by_cases hsweep : e = .sweep
    · subst hsweep
      exact Session.keepsDirectories_sweep _ _ _ _
    · exact (appends_next he hsweep).keepsDirectories

/-- A file that is not that of the attached session stays as it is, or a sweep removes it. -/
lemma lookup_next (hstart : e = .start → j.session = none) (hfull : j.disk.full = false)
    (h : j.disk.lookup place = some (.file content))
    (hs : ∀ path ∈ j.sessionPath, ¬j.disk.Leads path place) :
    (j.next c e).disk.lookup place = some (.file content) ∨
      e = .sweep ∧ (j.next c e).disk.lookup place = none := by
  by_cases he : e = .start
  · subst he
    left
    rcases next_start (c := c) hfull (hstart rfl) with hnext | ⟨s, disk, now, made, -, hnext, hnew⟩
    · rw [hnext]
      exact (grown_of_ensureDirectory _ _).kept place _ h
    · rw [hnext]
      exact hnew.kept place _ h
  · by_cases hsweep : e = .sweep
    · subst hsweep
      rcases Session.lookup_sweep j.disk c.logDirectory c.logBase c.logRetention place with
        hsame | ⟨-, hgone⟩
      · exact .inl (hsame.trans h)
      · exact .inr ⟨rfl, hgone⟩
    · exact .inl (((appends_next he hsweep).lookup hs).trans h)

/-- A file is new only where a session is started, and it is that of the session. -/
lemma leads_of_new_file (hstart : e = .start → j.session = none) (hfull : j.disk.full = false)
    (h : j.disk.lookup place = none)
    (hfile : (j.next c e).disk.lookup place = some (.file content)) :
    e = .start ∧ ∃ path ∈ (j.next c e).sessionPath, (j.next c e).disk.Leads path place := by
  by_cases he : e = .start
  · subst he
    refine ⟨rfl, ?_⟩
    rcases next_start (c := c) hfull (hstart rfl) with hnext | ⟨s, disk, now, made, -, hnext, hnew⟩
    · rw [hnext] at hfile
      cases h.symm.trans (Session.lookup_of_ensureDirectory hfile)
    · rw [hnext] at hfile ⊢
      by_cases hplace : place = made
      · rw [hplace]
        exact ⟨s.path, rfl, hnew.leads⟩
      · cases h.symm.trans (hnew.others place content hplace hfile)
  · by_cases hsweep : e = .sweep
    · subst hsweep
      rcases Session.lookup_sweep j.disk c.logDirectory c.logBase c.logRetention place with
        hsame | ⟨-, hgone⟩
      · cases (hsame.trans h).symm.trans hfile
      · cases hgone.symm.trans hfile
    · have hnone := (appends_next (c := c) he hsweep).lookup_eq_none_iff.mpr h
      cases hnone.symm.trans hfile

/-! ### The attached session -/

@[simp] lemma clock_next (c : Config) (j : Journal) (e : Event) :
    (j.next c e).clock = e.clockAfter j.clock := by
  cases e with
  | record category message => exact clock_record _ _ _
  | title title => exact clock_addSection _ _
  | start =>
    unfold next
    dsimp only
    split
    · exact clock_attach _ _
    · rfl
  | finish => exact clock_detach _
  | sweep => rfl
  | clock clock => rfl

lemma sessionPath_next (h : e.IsInside) : (j.next c e).sessionPath = j.sessionPath := by
  cases e with
  | record category message => exact (record_snd _ _ _).1
  | title title => exact (addSection_sessionPath _ _).1
  | start => exact h.elim
  | finish => exact h.elim
  | sweep => rfl
  | clock clock => rfl

lemma session_next_finish (c : Config) (j : Journal) : (j.next c .finish).session = none := by
  have hoff := isRecording_detach j
  rwa [isRecording, Option.isSome_eq_false_iff, Option.isNone_iff_eq_none] at hoff

/-- The text in the file of the attached session. -/
def attachedText? (j : Journal) : Option String :=
  match j.sessionPath.bind j.disk.content? with
  | some (.text text) => some text
  | _ => none

lemma attachedText?_eq_some_iff {text : String} :
    j.attachedText? = some text ↔
      ∃ s, j.session = some s ∧ j.disk.content? s.path = some (.text text) := by
  unfold attachedText? sessionPath
  cases j.session with
  | none => simp
  | some s =>
    rcases hcontent : j.disk.content? s.path with _ | ⟨old⟩ | ⟨bytes⟩ <;> simp [hcontent]

/-- This session is attached and open, and this text is in its file. -/
structure Holds (j : Journal) (s : Session) (place : Place) (text : String) : Prop where
  session : j.session = some s
  isOpen : s.isOpen = true
  leads : j.disk.Leads s.path place
  content : j.disk.lookup place = some (.file (.text text))

namespace Holds

variable {s : Session} {text : String}

lemma holds (h : j.Holds s place text) (hfull : j.disk.full = false) :
    s.Holds j.disk place text :=
  ⟨h.isOpen, h.leads, h.content, hfull⟩

lemma record (h : j.Holds s place text) (hfull : j.disk.full = false) (category : Category)
    (message : String) :
    (j.next c (.record category message)).Holds
      (s.counted ((Event.record category message).records j.clock)) place
      (text ++ (Event.record category message).text j.clock) := by
  have hrecord : j.next c (.record category message) = (j.record (some category) message).2 := rfl
  rw [hrecord]
  unfold Journal.record
  rw [h.session]
  dsimp only
  cases hread : j.clock.read with
  | error fault =>
    simp only [Session.record, hread, bind, Except.bind, Event.records, Event.text,
      Session.counted_zero, String.append_empty]
    exact ⟨rfl, h.isOpen, h.leads, h.content⟩
  | ok now =>
    have hheld := h.holds hfull
    have hwritten := (hheld.append
      (Session.block [Session.line now (some category) message])).counted 1
    simp only [Session.record, hread, bind, Except.bind, pure, Except.pure, hheld.recordAt_eq,
      Event.records, Event.text]
    exact ⟨rfl, hwritten.isOpen, hwritten.leads, hwritten.file⟩

lemma addSection (h : j.Holds s place text) (hfull : j.disk.full = false) (title : String) :
    (j.next c (.title title)).Holds s place
      (text ++ Session.block (Session.sectionTitle title)) := by
  have haddSection : j.next c (.title title) = j.addSection title := rfl
  have hwritten := (h.holds hfull).append (Session.block (Session.sectionTitle title))
  rw [haddSection]
  unfold Journal.addSection
  rw [h.session]
  dsimp only
  rw [(h.holds hfull).addSection_eq]
  exact ⟨rfl, hwritten.isOpen, hwritten.leads, hwritten.file⟩

/-- An event that neither starts nor finishes a session adds its text to the file, unless it is a
sweep that removes the file. -/
lemma next (h : j.Holds s place text) (hfull : j.disk.full = false) (he : e.IsInside) :
    (j.next c e).Holds (s.counted (e.records j.clock)) place (text ++ e.text j.clock) ∨
      (j.next c e).disk.lookup place = none := by
  cases e with
  | record category message => exact .inl (h.record hfull category message)
  | title title => exact .inl (h.addSection hfull title)
  | start => exact he.elim
  | finish => exact he.elim
  | sweep =>
    rcases Session.lookup_sweep j.disk c.logDirectory c.logBase c.logRetention place with
      hsame | ⟨-, hgone⟩
    · have hdisk := Session.keepsDirectories_sweep j.disk c.logDirectory c.logBase c.logRetention
      have htext : text ++ Event.sweep.text j.clock = text := String.append_empty
      rw [htext]
      exact .inl ⟨h.session, h.isOpen, h.leads.mono hdisk, hsame.trans h.content⟩
    · exact .inr hgone
  | clock clock =>
    have htext : text ++ (Event.clock clock).text j.clock = text := String.append_empty
    rw [htext]
    exact .inl ⟨h.session, h.isOpen, h.leads, h.content⟩

/-- Between its start and its finish the file of a session gets what the events add, as long as it
stands. -/
lemma after (h : j.Holds s place text) (hfull : j.disk.full = false)
    (hinside : ∀ e ∈ events, e.IsInside)
    (hstands : ∀ front, front <+: events → (j.after c front).disk.lookup place ≠ none) :
    (j.after c events).Holds (s.counted (Event.recordsIn j.clock events)) place
      (text ++ Event.script j.clock events) := by
  induction events generalizing j s text with
  | nil => simpa [Event.recordsIn, Event.script, Session.counted_zero] using h
  | cons e events ih =>
    obtain ⟨he, hinside⟩ := List.forall_mem_cons.mp hinside
    have hnext : (j.next c e).disk.lookup place ≠ none :=
      hstands [e] (List.prefix_append [e] events)
    have hstart : e = .start → j.session = none := by
      rintro rfl
      exact he.elim
    have hheld := (h.next (c := c) hfull he).resolve_right hnext
    have hrest := ih hheld (full_next hstart hfull) hinside fun front hfront =>
      hstands (e :: front) ((List.prefix_cons_inj e).mpr hfront)
    rw [clock_next, Session.counted_counted, String.append_assoc] at hrest
    exact hrest

/-- Finishing a session puts its trailer at the end of the file. -/
lemma finish (h : j.Holds s place text) (hfull : j.disk.full = false) {now : Moment}
    (hread : j.clock.read = .ok now) :
    (j.next c .finish).disk.lookup place =
      some (.file (.text (text ++ Session.block (s.trailer now)))) := by
  have hfinish : j.next c .finish = j.detach.2 := rfl
  rw [hfinish]
  unfold Journal.detach
  rw [h.session]
  simp only [Session.close, hread, bind, Except.bind, pure, Except.pure,
    (h.holds hfull).closeAt_eq]
  exact ((h.holds hfull).append (Session.block (s.trailer now))).file

end Holds

/-- This file is not that of the attached session. -/
structure Rests (j : Journal) (place : Place) (content : Content) : Prop where
  content : j.disk.lookup place = some (.file content)
  apart : ∀ path ∈ j.sessionPath, ∃ place', j.disk.Leads path place' ∧ place' ≠ place

/-- A file that is not that of the attached session stays as it is, or a sweep removes it. -/
lemma Rests.next (h : j.Rests place content) (hstart : e = .start → j.session = none)
    (hfull : j.disk.full = false) :
    (j.next c e).Rests place content ∨ e = .sweep ∧ (j.next c e).disk.lookup place = none := by
  have hdisk := keepsDirectories_next (c := c) hstart hfull
  have hapart : ∀ path ∈ j.sessionPath, ¬j.disk.Leads path place := by
    intro path hpath hleads
    obtain ⟨place', hleads', hne⟩ := h.apart path hpath
    exact hne (hleads'.eq hleads)
  refine (lookup_next (c := c) hstart hfull h.content hapart).imp_left fun hsame => ⟨hsame, ?_⟩
  by_cases he : e.IsInside
  · rw [sessionPath_next he]
    intro path hpath
    obtain ⟨place', hleads', hne⟩ := h.apart path hpath
    exact ⟨place', hleads'.mono hdisk, hne⟩
  · cases e with
    | start =>
      rcases next_start (c := c) hfull (hstart rfl) with
        hnext | ⟨s, disk, now, made, -, hnext, hnew⟩
      · intro path hpath
        rw [hnext] at hpath
        simp [sessionPath, hstart rfl] at hpath
      · rw [hnext]
        rintro path hpath
        obtain rfl : s.path = path := Option.some.inj hpath
        refine ⟨made, hnew.leads, ?_⟩
        -- the new file is made where nothing stood, and this file stood already
        rintro rfl
        cases hnew.free.symm.trans h.content
    | finish =>
      intro path hpath
      simp [sessionPath, session_next_finish] at hpath
    | _ => exact absurd trivial he

end Journal

end ClipboardWatchdog
