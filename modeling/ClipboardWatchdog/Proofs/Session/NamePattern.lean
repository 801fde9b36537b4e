import ClipboardWatchdog.Proofs.Session.NameStamps
import ClipboardWatchdog.Proofs.Session.OtherBases
import ClipboardWatchdog.Proofs.Time.CivilMoments

/-!
# What is taken for the name of a session

A name is taken for the one of a session if its stamp is a spelling of a time that exists. There are
more spellings than the one that is written: blanks, short numbers and signs are read as well. So
the names that are taken for the ones of sessions, and removed for their age, are more than those
that sessions have (`Session.taken_name_made_iff`).
-/

namespace ClipboardWatchdog

/-- The stamp is spelled as it may be, and it is the one of this time. -/
def Stamp.Tells (s : Stamp) (start : Civil) : Prop := s.IsSpelled ∧ s.civil? = some start

lemma Stamp.Tells.isValid {s : Stamp} {start : Civil} (h : s.Tells start) :
    start.isValid = true :=
  (fields_of_civil? h.2).1

lemma Civil.isRepresentable_moment {c : Civil} (h : c.isValid = true) :
    c.moment.IsRepresentable :=
  let ⟨hfirst, hlast, hnanos⟩ := moment_mem h
  ⟨hfirst, hlast, hnanos⟩

namespace Session

open Disk

variable {base name : String} {s : Stamp} {start : Civil}

/-- The name that a base and a stamp make up, however the stamp is spelled. -/
def spelledName (base : String) (s : Stamp) : String :=
  String.ofList (base.toList ++ '_' :: s.chars ++ ending)

/-- The names that are taken for those of sessions. -/
lemma startOf?_eq_some_iff :
    startOf? base name = some start ↔ ∃ s : Stamp, s.Tells start ∧ name = spelledName base s := by
  constructor
  · intro h
    obtain ⟨stamp, hname, hread⟩ := toList_of_startOf? h
    obtain ⟨s, hs, rfl, hcivil⟩ := Stamp.readFileText_eq_some_iff.mp hread
    exact ⟨s, ⟨hs, hcivil⟩, by rw [spelledName, ← hname, String.ofList_toList]⟩
  · rintro ⟨s, ⟨hs, hcivil⟩, rfl⟩
    rw [startOf?, spelledName, String.toList_ofList, readName_append]
    exact Stamp.readFileText_eq_some_iff.mpr ⟨s, hs, rfl, hcivil⟩

lemma spelledName_eq_iff {c : Civil} :
    spelledName base s = nameAt base c ↔ s.chars = c.fileText := by
  unfold spelledName nameAt nameChars
  rw [String.ofList_inj, List.append_cancel_right_eq, List.append_cancel_left_eq,
    List.cons.injEq, and_iff_right rfl]

/-- Of the names that tell a start, the one that a session has is spelled plainly. -/
lemma spelledName_eq_nameAt_iff (h : s.Tells start) :
    spelledName base s = nameAt base start ↔ s.IsPlain := by
  rw [spelledName_eq_iff]
  exact Stamp.chars_eq_fileText_iff h.1 h.2

/-- A session of any start has a plain stamp in its name. -/
lemma isPlain_of_spelledName_eq {c : Civil} (h : s.Tells start)
    (hname : spelledName base s = nameAt base c) : s.IsPlain := by
  have hchars := (spelledName_eq_iff.mp hname).trans (Stamp.chars_written _).symm
  rw [Stamp.chars_inj h.1 (Stamp.isSpelled_written _) hchars]
  exact Stamp.isPlain_written _

/-- The names that are taken for those of sessions, and that are therefore removed for their age,
are those with a stamp that tells a start. The start is the one of a moment of the calendar, and a
session has the name, at this or any other time that exists, exactly if the stamp is spelled
plainly. -/
theorem taken_name_made_iff (base : String) :
    (∀ name start, startOf? base name = some start ↔
      ∃ s : Stamp, s.Tells start ∧ name = spelledName base s) ∧
    (∀ (s : Stamp) (start : Civil), s.Tells start →
      start.moment.IsRepresentable ∧ Civil.ofMoment start.moment = start ∧
      (spelledName base s = nameAt base start ↔ s.IsPlain) ∧
      ((∃ c : Civil, c.isValid = true ∧ spelledName base s = nameAt base c) ↔ s.IsPlain)) ∧
    ∀ (d : Disk) (dir : Path) (keep : ℕ),
      (∀ names, d.list dir = .ok names → ∀ n ∈ names, '/' ∉ n.toList) →
      ∀ place : Place, (sweep d dir base keep).2.lookup place ≠ d.lookup place →
        ∃ (s : Stamp) (start : Civil), s.Tells start ∧
          place.getLast? = some (spelledName base s) := by
  refine ⟨fun name start => startOf?_eq_some_iff, fun s start h => ?_, ?_⟩
  · have hmoment := Civil.isRepresentable_moment h.isValid
    have hplain : spelledName base s = nameAt base start ↔ s.IsPlain := spelledName_eq_nameAt_iff h
    refine ⟨hmoment, Civil.ofMoment_moment h.isValid, hplain, ?_, ?_⟩
    · rintro ⟨c, -, hname⟩
      exact isPlain_of_spelledName_eq h hname
    · intro hs
      exact ⟨start, h.isValid, hplain.mpr hs⟩
  · intro d dir keep hlisted place hgone
    by_contra hnone
    refine hgone (lookup_sweep_of_startOf?_eq_none hlisted (fun name hname => ?_) keep)
    rw [Option.eq_none_iff_forall_ne_some]
    intro start hstart
    obtain ⟨s, hs, rfl⟩ := startOf?_eq_some_iff.mp hstart
    exact hnone ⟨s, start, hs, hname⟩

/-- A name with short numbers in its stamp, and the name of a session of the day after. -/
def shortlyNamed : Disk where
  entries :=
    [(["w"], .directory), (["w", "d_2026-3-9_1-2-3.log"], .file (.text "notes")),
      (["w", "d_2026-03-10_01-02-03.log"], .file (.text ""))]

lemma lookup_sweep_shortlyNamed :
    (sweep shortlyNamed (Path.ofString "/w") "d" 1).2.lookup ["w", "d_2026-3-9_1-2-3.log"] =
      none := by
  unfold sweep expired
  simp only [newestFirst_eq_insertionSort]
  decide

theorem taken_name_made_iff_shortlyNamed :
    let dir := Path.ofString "/w"
    let place := ["w", "d_2026-3-9_1-2-3.log"]
    (∀ names, shortlyNamed.list dir = .ok names → ∀ n ∈ names, '/' ∉ n.toList) ∧
      (sweep shortlyNamed dir "d" 1).2.lookup place ≠ shortlyNamed.lookup place ∧
      ∃ (s : Stamp) (start : Civil), s.Tells start ∧
        place.getLast? = some (spelledName "d" s) ∧
        ((∃ c : Civil, c.isValid = true ∧ spelledName "d" s = nameAt "d" c) ↔ s.IsPlain) := by
  intro dir place
  have hlisted : ∀ names, shortlyNamed.list dir = .ok names → ∀ n ∈ names, '/' ∉ n.toList := by
    intro names hnames
    obtain rfl : ["d_2026-3-9_1-2-3.log", "d_2026-03-10_01-02-03.log"] = names :=
      Except.ok.inj hnames
    decide
  have hgone : (sweep shortlyNamed dir "d" 1).2.lookup place ≠ shortlyNamed.lookup place := by
    rw [lookup_sweep_shortlyNamed]
    decide
  obtain ⟨-, hmade, hswept⟩ := taken_name_made_iff "d"
  obtain ⟨s, start, hs, hplace⟩ := hswept shortlyNamed dir 1 hlisted place hgone
  exact ⟨hlisted, hgone, s, start, hs, hplace, (hmade s start hs).2.2.2⟩

/-- A file goes as an old session that no session can have made. -/
theorem short_name_removed :
    let name := "d_2026-3-9_1-2-3.log"
    startOf? "d" name = some ⟨2026, 3, 9, 1, 2, 3, 0⟩ ∧
      (∀ c : Civil, name ≠ nameAt "d" c) ∧
      (shortlyNamed.lookup ["w", name]).isSome = true ∧
      (sweep shortlyNamed (Path.ofString "/w") "d" 1).2.lookup ["w", name] = none := by
  intro name
  have hstart : startOf? "d" name = some ⟨2026, 3, 9, 1, 2, 3, 0⟩ := by decide
  refine ⟨hstart, ?_, by decide, lookup_sweep_shortlyNamed⟩
  intro c hname
  obtain ⟨s, hs, hspelled⟩ := startOf?_eq_some_iff.mp hstart
  have hplain := isPlain_of_spelledName_eq hs (hspelled.symm.trans hname)
  have hmade : name = nameAt "d" ⟨2026, 3, 9, 1, 2, 3, 0⟩ :=
    hspelled.trans ((spelledName_eq_nameAt_iff hs).mpr hplain)
  revert hmade
  decide

end Session

end ClipboardWatchdog
