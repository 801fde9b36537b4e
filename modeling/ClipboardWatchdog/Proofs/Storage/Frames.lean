import ClipboardWatchdog.Proofs.Session.Sweeping
import ClipboardWatchdog.Proofs.Storage.Writing

/-!
# What a change of the disk leaves alone

A path `Leads` to the place where its file stands or would stand, and it leads there as long as no
directory goes. Appending to a file touches the place that the path leads to, and no other. Making
directories makes no file, making a file touches a place where nothing stood, and removing old
session files takes files away and does nothing else.
-/

namespace ClipboardWatchdog

namespace Disk

variable {d d' : Disk} {p : Path} {place place' : Place} {content : Content} {old text : String}

/-- The path ends at a name, and a file of that name stands or would stand at this place. -/
def Leads (d : Disk) (p : Path) (place : Place) : Prop :=
  ∃ here name, d.locate p = .ok (.named here name false) ∧ name.utf8ByteSize ≤ maxName ∧
    place = here ++ [name]

lemma Leads.eq (h : d.Leads p place) (h' : d.Leads p place') : place = place' := by
  obtain ⟨here, name, hlocate, -, rfl⟩ := h
  obtain ⟨here', name', hlocate', -, rfl⟩ := h'
  obtain ⟨rfl, rfl, -⟩ := End.named.inj (Except.ok.inj (hlocate.symm.trans hlocate'))
  rfl

lemma Leads.ne_nil (h : d.Leads p place) : place ≠ [] := by
  obtain ⟨here, name, -, -, rfl⟩ := h
  simp

/-- All directories of the first disk are directories of the second. -/
def KeepsDirectories (d d' : Disk) : Prop :=
  ∀ place, d.lookup place = some .directory → d'.lookup place = some .directory

lemma Leads.mono (h : d.Leads p place) (hkeeps : d.KeepsDirectories d') : d'.Leads p place := by
  obtain ⟨here, name, hlocate, hsize, rfl⟩ := h
  exact ⟨here, name, locate_mono hkeeps hlocate, hsize, rfl⟩

lemma stat_eq_file_iff :
    d.stat p = .ok (place, .file content) ↔
      d.Leads p place ∧ d.lookup place = some (.file content) := by
  constructor
  · intro h
    obtain ⟨here, name, hlocate, rfl, hsize, hlookup⟩ := stat_eq_file h
    exact ⟨⟨here, name, hlocate, hsize, rfl⟩, hlookup⟩
  · rintro ⟨⟨here, name, hlocate, hsize, rfl⟩, hlookup⟩
    have hsize : ¬maxName < name.utf8ByteSize := by omega
    simp [stat, hlocate, step, hsize, hlookup]

/-- Where a path leads, its file has this content exactly if the file at the place has. -/
lemma Leads.content?_eq_some_iff (h : d.Leads p place) :
    d.content? p = some content ↔ d.lookup place = some (.file content) := by
  rw [Disk.content?_eq_some_iff]
  constructor
  · rintro ⟨place', hstat⟩
    obtain ⟨hleads, hlookup⟩ := stat_eq_file_iff.mp hstat
    rwa [h.eq hleads]
  · intro hlookup
    exact ⟨place, stat_eq_file_iff.mpr ⟨h, hlookup⟩⟩

lemma Leads.isFile_iff (h : d.Leads p place) :
    d.isFile p = true ↔ ∃ content, d.lookup place = some (.file content) := by
  rw [Disk.isFile_iff]
  constructor
  · rintro ⟨place', content, hstat⟩
    obtain ⟨hleads, hlookup⟩ := stat_eq_file_iff.mp hstat
    rw [h.eq hleads]
    exact ⟨content, hlookup⟩
  · rintro ⟨content, hlookup⟩
    exact ⟨place, content, stat_eq_file_iff.mpr ⟨h, hlookup⟩⟩

/-! ### Appending -/

lemma append_of_leads (hleads : d.Leads p place)
    (hold : d.lookup place = some (.file (.text old))) (hfull : d.full = false) (text : String) :
    d.append p text = (true, d.replace place (.file (.text (old ++ text)))) := by
  have hstat := stat_eq_file_iff.mpr ⟨hleads, hold⟩
  simp [append, hfull, hstat]

lemma lookup_append_of_leads (hleads : d.Leads p place)
    (hold : d.lookup place = some (.file (.text old))) (hfull : d.full = false) (text : String) :
    (d.append p text).2.lookup place = some (.file (.text (old ++ text))) := by
  rw [append_of_leads hleads hold hfull]
  exact lookup_replace_self hold _

/-- A text that is appended stands at the end of the file. -/
lemma content?_append (hold : d.content? p = some (.text old)) (hfull : d.full = false)
    (text : String) : (d.append p text).2.content? p = some (.text (old ++ text)) := by
  obtain ⟨place, hstat⟩ := Disk.content?_eq_some_iff.mp hold
  obtain ⟨hleads, hlookup⟩ := stat_eq_file_iff.mp hstat
  have hleads' : (d.append p text).2.Leads p place :=
    hleads.mono fun _ => (alike_append d p text).lookup_directory
  exact hleads'.content?_eq_some_iff.mpr (lookup_append_of_leads hleads hlookup hfull text)

/-- What stands at a place that a path does not lead to is not touched. -/
lemma lookup_append_of_not_leads (h : ¬d.Leads p place) (text : String) :
    (d.append p text).2.lookup place = d.lookup place := by
  unfold append
  split
  · rfl
  · split
    · next place' old hstat =>
      refine lookup_replace_of_ne ?_ _
      rintro rfl
      exact h (stat_eq_file_iff.mp hstat).1
    · rfl

/-- A disk that is full takes nothing. -/
lemma append_snd_of_full (hfull : d.full = true) (text : String) : (d.append p text).2 = d := by
  simp [append, hfull]

lemma full_append (d : Disk) (p : Path) (text : String) : (d.append p text).2.full = d.full := by
  unfold append
  split
  · rfl
  · split <;> rfl

lemma keepsDirectories_append (d : Disk) (p : Path) (text : String) :
    d.KeepsDirectories (d.append p text).2 :=
  fun _ => (alike_append d p text).lookup_directory

/-- Where nothing stands, nothing stands after appending either. -/
lemma lookup_append_eq_none_iff (text : String) :
    (d.append p text).2.lookup place = none ↔ d.lookup place = none := by
  have hkind := (alike_append d p text).kinds place
  rw [← Option.map_eq_none_iff (f := Entry.isDirectory), ← hkind, Option.map_eq_none_iff]

/-! ### Making directories and files -/

lemma Grown.keepsDirectories (h : Grown d d') : d.KeepsDirectories d' :=
  fun place => h.kept place .directory

/-- Making a directory makes no file. -/
lemma lookup_of_makeDirectory_eq_ok (h : d.makeDirectory p = .ok d')
    (hfile : d'.lookup place = some (.file content)) : d.lookup place = some (.file content) := by
  unfold makeDirectory at h
  split at h
  · cases h
  · cases h
  · split at h
    · cases h
    · cases h
    · next made hstep =>
      cases h
      unfold step at hstep
      split at hstep
      · cases hstep
      · obtain ⟨hmade, hnone⟩ := Prod.mk.inj (Except.ok.inj hstep)
        rw [hmade] at hnone
        by_cases hplace : place = made
        · have hne : made ≠ [] := by simp [← hmade]
          rw [hplace, lookup_insert_self hne hnone] at hfile
          cases hfile
        · rwa [lookup_insert_of_ne hplace] at hfile

lemma lookup_of_makeDirectories (d : Disk) (p : Path) (fuel : ℕ)
    (hfile : (d.makeDirectories p fuel).2.lookup place = some (.file content)) :
    d.lookup place = some (.file content) := by
  fun_induction makeDirectories d p fuel with
  | case3 p fuel hchars d' hmake => exact lookup_of_makeDirectory_eq_ok hmake hfile
  | case5 p fuel hchars hmake parent hparent e d' hparents ih =>
    rw [hparents] at ih
    exact ih hfile
  | case6 p fuel hchars hmake parent hparent d' hparents d'' hmake' ih =>
    rw [hparents] at ih
    exact ih (lookup_of_makeDirectory_eq_ok hmake' hfile)
  | case7 p fuel hchars hmake parent hparent d' hparents e hmake' hthere ih =>
    rw [hparents] at ih
    exact ih hfile
  | case8 p fuel hchars hmake parent hparent d' hparents e hmake' hnone ih =>
    rw [hparents] at ih
    exact ih hfile
  | _ => exact hfile

/-- A file is made where its path leads and nothing stood. -/
lemma createNew_eq_ok (h : d.createNew p = .ok d') :
    ∃ place, d.Leads p place ∧ d.lookup place = none ∧ d' = d.insert place (.file (.text "")) := by
  unfold createNew at h
  split at h
  · cases h
  · cases h
  · next here name strict hlocate =>
    split at h
    · cases h
    · next hstrict =>
      split at h
      · cases h
      · cases h
      · next made hstep =>
        cases h
        unfold step at hstep
        split at hstep
        · cases hstep
        · next hsize =>
          obtain ⟨rfl, hnone⟩ := Prod.mk.inj (Except.ok.inj hstep)
          rw [Bool.not_eq_true] at hstrict
          subst hstrict
          exact ⟨here ++ [name], ⟨here, name, hlocate, by omega, rfl⟩, hnone, rfl⟩

/-! ### Removing files -/

lemma remove_eq_ok (h : d.remove p = .ok d') :
    ∃ place content, d.lookup place = some (.file content) ∧ d' = d.erase place := by
  unfold remove at h
  split at h
  · cases h
  · cases h
  · next place content hstat =>
    cases h
    exact ⟨place, content, (stat_eq_file_iff.mp hstat).2, rfl⟩

end Disk

namespace Session

open Disk

variable {d : Disk} {place : Place}

/-- Removing files leaves an entry as it is, or it was a file and is gone. -/
lemma lookup_removeAll (dir : Path) (names : List String) (d : Disk) (place : Place) :
    (removeAll dir names d).2.lookup place = d.lookup place ∨
      (∃ content, d.lookup place = some (.file content)) ∧
        (removeAll dir names d).2.lookup place = none := by
  induction names generalizing d with
  | nil => exact .inl rfl
  | cons name names ih =>
    unfold removeAll
    cases hremove : d.remove (dir.join name) with
    | error e => exact ih d
    | ok d' =>
      obtain ⟨place', content, hlookup, rfl⟩ := remove_eq_ok hremove
      dsimp only
      by_cases hplace : place = place'
      · subst hplace
        have hgone := lookup_erase_self (d := d) (lookup_ne_nil hlookup)
        refine .inr ⟨⟨content, hlookup⟩, ?_⟩
        rcases ih (d.erase place) with h | ⟨⟨content', h⟩, -⟩
        · exact h.trans hgone
        · cases hgone.symm.trans h
      · have hsame := lookup_erase_of_ne (d := d) hplace
        have ih := ih (d.erase place')
        rwa [hsame] at ih

lemma full_removeAll (dir : Path) (names : List String) (d : Disk) :
    (removeAll dir names d).2.full = d.full := by
  induction names generalizing d with
  | nil => rfl
  | cons name names ih =>
    unfold removeAll
    cases hremove : d.remove (dir.join name) with
    | error e => exact ih d
    | ok d' =>
      obtain ⟨place', content, -, rfl⟩ := remove_eq_ok hremove
      exact ih _

lemma lookup_sweep (d : Disk) (dir : Path) (base : String) (keep : ℕ) (place : Place) :
    (sweep d dir base keep).2.lookup place = d.lookup place ∨
      (∃ content, d.lookup place = some (.file content)) ∧
        (sweep d dir base keep).2.lookup place = none := by
  unfold sweep
  split
  · exact lookup_removeAll _ _ _ _
  · exact .inl rfl

lemma full_sweep (d : Disk) (dir : Path) (base : String) (keep : ℕ) :
    (sweep d dir base keep).2.full = d.full := by
  unfold sweep
  split
  · exact full_removeAll _ _ _
  · rfl

lemma keepsDirectories_sweep (d : Disk) (dir : Path) (base : String) (keep : ℕ) :
    d.KeepsDirectories (sweep d dir base keep).2 := by
  intro place hplace
  rcases lookup_sweep d dir base keep place with h | ⟨⟨content, h⟩, -⟩
  · exact h.trans hplace
  · cases hplace.symm.trans h

end Session

end ClipboardWatchdog
