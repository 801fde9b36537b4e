import ClipboardWatchdog.Proofs.Watchdog.Journaling
import Mathlib.Data.Set.Card

/-!
# The files that a row of events leaves

In a row of events that `Fits`, a session is started only where none is attached and finished only
where the clock can be read. Each session then has a file of its own, and what is in it is told by
the events between its start and its finish (`Journal.Filed`).
-/

namespace ClipboardWatchdog

open Disk

namespace Journal

variable {c : Config} {j : Journal} {events : List Event}

/-- Sessions are started only where none is attached, and finished only where the clock can be
read. -/
def Fits (c : Config) (j : Journal) : List Event → Prop
  | [] => True
  | e :: events => (e = .start → j.session = none) ∧ (e = .finish → ∃ now, j.clock.read = .ok now) ∧
    Fits c (j.next c e) events

lemma fits_append_iff {front back : List Event} :
    j.Fits c (front ++ back) ↔ j.Fits c front ∧ (j.after c front).Fits c back := by
  induction front generalizing j with
  | nil => simp [Fits]
  | cons e front ih => simp [Fits, ih, and_assoc]

lemma fits_of_inside (h : ∀ e ∈ events, e.IsInside) : j.Fits c events := by
  induction events generalizing j with
  | nil => trivial
  | cons e events ih =>
    obtain ⟨he, hrest⟩ := List.forall_mem_cons.mp h
    refine ⟨?_, ?_, ih hrest⟩ <;> (rintro rfl; exact he.elim)

lemma Fits.full (h : j.Fits c events) (hfull : j.disk.full = false) :
    (j.after c events).disk.full = false := by
  induction events generalizing j with
  | nil => exact hfull
  | cons e events ih => exact ih h.2.2 (full_next h.1 hfull)

lemma Fits.of_prefix {front : List Event} (h : j.Fits c events) (hfront : front <+: events) :
    j.Fits c front := by
  obtain ⟨back, rfl⟩ := hfront
  exact (fits_append_iff.mp h).1

lemma Fits.keepsDirectories (h : j.Fits c events) (hfull : j.disk.full = false) :
    j.disk.KeepsDirectories (j.after c events).disk := by
  induction events generalizing j with
  | nil => exact fun _ => id
  | cons e events ih =>
    exact fun place hplace => ih h.2.2 (full_next h.1 hfull) place
      (keepsDirectories_next h.1 hfull place hplace)

/-- While a session is attached, events go into it until it is finished. -/
lemma Fits.exists_inside (h : j.Fits c events) (hon : j.session ≠ none) :
    ∃ inside rest, events = inside ++ rest ∧ (∀ e ∈ inside, e.IsInside) ∧
      (rest = [] ∨ ∃ stop later, rest = .finish :: later ∧
        (j.after c inside).clock.read = .ok stop) := by
  induction events generalizing j with
  | nil => exact ⟨[], [], rfl, by simp, .inl rfl⟩
  | cons e events ih =>
    obtain ⟨hstart, hfinish, hrest⟩ := h
    by_cases he : e.IsInside
    · have hon' : (j.next c e).session ≠ none := by
        have hpath := sessionPath_next (c := c) (j := j) he
        simp only [sessionPath] at hpath
        intro hnone
        rw [hnone, Option.map_none, eq_comm, Option.map_eq_none_iff] at hpath
        exact hon hpath
      obtain ⟨inside, rest, rfl, hinside, hend⟩ := ih hrest hon'
      exact ⟨e :: inside, rest, rfl, List.forall_mem_cons.mpr ⟨he, hinside⟩, hend⟩
    · cases e with
      | start => exact absurd (hstart rfl) hon
      | finish =>
        obtain ⟨stop, hstop⟩ := hfinish rfl
        exact ⟨[], .finish :: events, rfl, by simp, .inr ⟨stop, events, rfl, hstop⟩⟩
      | _ => exact absurd trivial he

/-- A file that is not that of the attached session stays as it is, until a sweep removes it. -/
lemma Rests.after {place : Place} {content : Content} (h : j.Rests place content)
    (hfits : j.Fits c events) (hfull : j.disk.full = false) :
    (j.after c events).Rests place content ∨
      ∃ front, front ++ [.sweep] <+: events ∧
        (j.after c (front ++ [.sweep])).disk.lookup place = none := by
  induction events generalizing j with
  | nil => exact .inl h
  | cons e events ih =>
    rcases h.next (c := c) hfits.1 hfull with hnext | ⟨rfl, hgone⟩
    · refine (ih hnext hfits.2.2 (full_next hfits.1 hfull)).imp_right ?_
      rintro ⟨front, hfront, hgone⟩
      exact ⟨e :: front, (List.prefix_cons_inj e).mpr hfront, hgone⟩
    · exact .inr ⟨[], List.prefix_append [Event.sweep] events, hgone⟩

/-! ### The file of a session -/

/-- A session was started, and these events came after. Its file has the header, what the events add
until the session is finished, and then the trailer and nothing more. -/
def HasFile (c : Config) (j : Journal) (s : Session) (events : List Event) : Prop :=
  ∃ now inside rest, j.clock.read = .ok now ∧ events = inside ++ rest ∧
    (∀ e ∈ inside, e.IsInside) ∧
    let text := Session.block (Session.header c.origin c.role now c.helper) ++
      Event.script j.clock inside
    let content := (j.after c (.start :: events)).disk.content? s.path
    rest = [] ∧ content = some (.text text) ∨
      ∃ stop later, rest = .finish :: later ∧
        (j.after c (.start :: inside)).clock.read = .ok stop ∧
        content = some (.text (text ++ Session.block
          ((s.counted (Event.recordsIn j.clock inside)).trailer stop)))

/-- As long as its file stands, it is that of the session. -/
lemma hasFile_of_start (hfull : j.disk.full = false) (hfits : j.Fits c (.start :: events))
    {s : Session} (hs : (j.next c .start).session = some s)
    (hstands : ∀ front, front <+: events →
      (j.after c (.start :: front)).disk.isFile s.path = true) : j.HasFile c s events := by
  obtain ⟨hstart, -, hrest⟩ := hfits
  have hfull' := full_next (c := c) hstart hfull
  rcases next_start (c := c) hfull (hstart rfl) with
    hnext | ⟨s', disk, now, place, hread, hnext, hnew⟩
  · rw [hnext] at hs
    cases (hstart rfl).symm.trans hs
  have hclock : (j.next c .start).clock = j.clock := clock_next _ _ _
  have hheld : (j.next c .start).Holds s place
      (Session.block (Session.header c.origin c.role now c.helper)) := by
    rw [hnext] at hs ⊢
    obtain rfl := Option.some.inj hs
    exact ⟨rfl, by rw [hnew.session], hnew.leads, hnew.header⟩
  -- the path goes on leading to the place, so that the file stands there
  have hleads : ∀ front, front <+: events → (j.after c (.start :: front)).disk.Leads s.path place :=
    fun front hfront => hheld.leads.mono ((hrest.of_prefix hfront).keepsDirectories hfull')
  have hplace : ∀ front, front <+: events →
      (j.after c (.start :: front)).disk.lookup place ≠ none := by
    intro front hfront
    obtain ⟨content, hcontent⟩ := (hleads front hfront).isFile_iff.mp (hstands front hfront)
    rw [hcontent]
    simp
  obtain ⟨inside, rest, rfl, hinside, hend⟩ := hrest.exists_inside (by simp [hs])
  obtain ⟨hbefore, hafter⟩ := fits_append_iff.mp hrest
  have hheld' := hheld.after hfull' hinside fun front hfront =>
    hplace front (hfront.trans (List.prefix_append inside rest))
  rw [hclock] at hheld'
  refine ⟨now, inside, rest, hread, rfl, hinside, ?_⟩
  rcases hend with rfl | ⟨stop, later, rfl, hstop⟩
  · left
    rw [List.append_nil]
    exact ⟨rfl, hheld'.leads.content?_eq_some_iff.mpr hheld'.content⟩
  · refine .inr ⟨stop, later, rfl, hstop, ?_⟩
    have hfull'' := hbefore.full hfull'
    obtain ⟨hfinish, -, hlater⟩ := hafter
    have hrests : (((j.next c .start).after c inside).next c .finish).Rests place
        (.text (Session.block (Session.header c.origin c.role now c.helper) ++
          Event.script j.clock inside ++ Session.block
            ((s.counted (Event.recordsIn j.clock inside)).trailer stop))) := by
      refine ⟨hheld'.finish hfull'' hstop, fun path hpath => ?_⟩
      simp [sessionPath, session_next_finish] at hpath
    rw [(hleads _ List.prefix_rfl).content?_eq_some_iff, after_cons, after_append, after_cons]
    rcases hrests.after hlater (full_next hfinish hfull'') with hrests' | ⟨front, hfront, hgone⟩
    · exact hrests'.content
    · have hfront' : inside ++ .finish :: (front ++ [.sweep]) <+: inside ++ .finish :: later :=
        (List.prefix_append_right_inj inside).mpr ((List.prefix_cons_inj _).mpr hfront)
      have hstill := hplace _ hfront'
      rw [after_cons, after_append, after_cons] at hstill
      exact absurd hgone hstill

/-! ### All files -/

/-- There was no file at the place, and there is one now. -/
def Makes (j j' : Journal) (place : Place) : Prop :=
  (∀ content, j.disk.lookup place ≠ some (.file content)) ∧
    ∃ content, j'.disk.lookup place = some (.file content)

/-- The only files that an event makes are those of the sessions that it starts. -/
lemma makes_next_iff {e : Event} (hstart : e = .start → j.session = none)
    (hfull : j.disk.full = false) (place : Place) :
    Makes j (j.next c e) place ↔
      e = .start ∧ ∃ path ∈ (j.next c e).sessionPath, (j.next c e).disk.Leads path place := by
  constructor
  · rintro ⟨hbefore, content, hfile⟩
    refine leads_of_new_file hstart hfull ?_ hfile
    cases hlookup : j.disk.lookup place with
    | none => rfl
    | some entry =>
      cases entry with
      | file content => exact absurd hlookup (hbefore content)
      | directory =>
        cases (keepsDirectories_next (c := c) hstart hfull place hlookup).symm.trans hfile
  · rintro ⟨rfl, path, hpath, hleads⟩
    rcases next_start (c := c) hfull (hstart rfl) with hnext | ⟨s, disk, now, made, -, hnext, hnew⟩
    · rw [hnext] at hpath
      simp [sessionPath, hstart rfl] at hpath
    · rw [hnext] at hpath hleads ⊢
      obtain rfl : s.path = path := Option.some.inj hpath
      obtain rfl := hnew.leads.eq hleads
      refine ⟨?_, _, hnew.header⟩
      intro content hcontent
      cases hnew.free.symm.trans hcontent

/-- A start makes one file if a session comes of it, and none otherwise. -/
lemma ncard_makes_start (hnone : j.session = none) (hfull : j.disk.full = false) :
    {place | Makes j (j.next c .start) place}.ncard = (j.next c .start).isRecording.toNat := by
  have hmakes := makes_next_iff (c := c) (e := .start) (fun _ => hnone) hfull
  simp only [hmakes, true_and]
  rcases next_start (c := c) hfull hnone with hnext | ⟨s, disk, now, made, -, hnext, hnew⟩
  · rw [hnext]
    simp [sessionPath, isRecording, hnone]
  · rw [hnext]
    have hleads (place : Place) : disk.Leads s.path place ↔ place = made :=
      ⟨fun h => h.eq hnew.leads, by rintro rfl; exact hnew.leads⟩
    simp [sessionPath, isRecording, hleads]

/-- How many files events make. -/
noncomputable def filesMade (c : Config) (j : Journal) : List Event → ℕ
  | [] => 0
  | e :: events => {place | Makes j (j.next c e) place}.ncard + filesMade c (j.next c e) events

lemma filesMade_append (c : Config) (j : Journal) (front back : List Event) :
    j.filesMade c (front ++ back) = j.filesMade c front + (j.after c front).filesMade c back := by
  induction front generalizing j with
  | nil => simp [filesMade]
  | cons e front ih => simp [filesMade, ih, add_assoc]

/-- No file is made where no session is started. -/
lemma Fits.filesMade_eq_zero (h : j.Fits c events) (hfull : j.disk.full = false)
    (hstart : .start ∉ events) : j.filesMade c events = 0 := by
  induction events generalizing j with
  | nil => rfl
  | cons e events ih =>
    obtain ⟨he, hevents⟩ := not_or.mp (mt List.mem_cons.mpr hstart)
    have hmakes := makes_next_iff (c := c) h.1 hfull
    simp only [filesMade, hmakes, Ne.symm he, false_and, Set.ofPred_false, Set.ncard_empty,
      zero_add]
    exact ih h.2.2 (full_next h.1 hfull) hevents

/-- What events do to the files of a disk. Each session that they start has a file of its own, which
is made at its start and is, as long as it stands, what the session made of it. No other file is
made, and none of those that were there before is changed, unless a sweep removes it. -/
structure Filed (c : Config) (j : Journal) (events : List Event) : Prop where
  sessions {front back : List Event} {s : Session} (hevents : events = front ++ .start :: back)
    (hs : (j.after c (front ++ [.start])).session = some s)
    (hstands : ∀ later, later <+: back →
      (j.after c (front ++ .start :: later)).disk.isFile s.path = true) :
    (j.after c front).HasFile c s back
  makes {front : List Event} {e : Event} (hfront : front ++ [e] <+: events) (place : Place) :
    Makes (j.after c front) (j.after c (front ++ [e])) place ↔
      e = .start ∧ ∃ path ∈ (j.after c (front ++ [e])).sessionPath,
        (j.after c (front ++ [e])).disk.Leads path place
  others {place : Place} {content : Content} (h : j.disk.lookup place = some (.file content)) :
    (j.after c events).disk.lookup place = some (.file content) ∨
      ∃ front, front ++ [.sweep] <+: events ∧
        (j.after c (front ++ [.sweep])).disk.lookup place = none

lemma Fits.filed (h : j.Fits c events) (hfull : j.disk.full = false) (hoff : j.session = none) :
    j.Filed c events where
  sessions := by
    rintro front back s rfl hs hstands
    obtain ⟨hbefore, hafter⟩ := fits_append_iff.mp h
    rw [after_concat] at hs
    refine hasFile_of_start (hbefore.full hfull) hafter hs fun later hlater => ?_
    rw [← after_append]
    exact hstands later hlater
  makes := by
    rintro front e ⟨back, rfl⟩ place
    rw [List.append_assoc] at h
    obtain ⟨hbefore, hstart, -, -⟩ := fits_append_iff.mp h
    rw [after_concat]
    exact makes_next_iff hstart (hbefore.full hfull) place
  others := by
    intro place content hfile
    have hrests : j.Rests place content := ⟨hfile, by simp [sessionPath, hoff]⟩
    exact (hrests.after h hfull).imp_left Rests.content

end Journal

end ClipboardWatchdog
