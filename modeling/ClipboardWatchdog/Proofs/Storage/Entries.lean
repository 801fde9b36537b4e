import ClipboardWatchdog.Proofs.Storage.Walking

/-!
# What stands on a disk

What each change of a disk does to the entries on it. Two disks are `Alike` if they differ at most
in what is written in their files, and writing to a file keeps a disk alike. Of an entry that is
made or removed, only the entry itself tells.
-/

namespace ClipboardWatchdog

/-- The entry is a directory. -/
def Entry.isDirectory : Entry → Bool
  | .file _ => false
  | .directory => true

namespace Disk

open ClipboardWatchdog.Path

variable {d d' d'' : Disk} {here place place' : Place}

/-- The path leads to a file. -/
def isFile (d : Disk) (p : Path) : Bool :=
  match d.stat p with
  | .ok (_, .file _) => true
  | _ => false

lemma childName?_eq_some_iff {name : String} :
    childName? here place = some name ↔ place = here ++ [name] := by
  constructor
  · intro h
    unfold childName? at h
    split at h
    · next last hlast =>
      split at h
      · next hhere =>
        obtain rfl := Option.some.inj h
        obtain ⟨front, rfl⟩ := List.getLast?_eq_some_iff.mp hlast
        rw [List.dropLast_concat] at hhere
        rw [hhere]
      · cases h
    · cases h
  · rintro rfl
    simp [childName?]

/-- The names of the entries in a directory. -/
lemma names_eq (d : Disk) (here : Place) :
    (d.children here).map (·.1) = (d.entries.map (·.1)).filterMap (childName? here) := by
  simp [children, List.filterMap_map, List.map_filterMap, Function.comp_def]

lemma list_eq_ok_iff {p : Path} {names : List String} :
    d.list p = .ok names ↔
      ∃ here, checkPath p = .ok () ∧ d.walk [] p.segments = .ok here ∧
        names = (d.children here).map (·.1) := by
  constructor
  · intro h
    unfold list at h
    split at h
    · cases h
    · cases h
    · next here hstat =>
      obtain ⟨hpath, hwalk⟩ := stat_eq_directory_iff.mp hstat
      exact ⟨here, hpath, hwalk, (Except.ok.inj h).symm⟩
  · rintro ⟨here, hpath, hwalk, rfl⟩
    unfold list
    rw [stat_eq_directory_iff.mpr ⟨hpath, hwalk⟩]

lemma list_eq_error {p : Path} {e : DiskError} (h : checkPath p = .error e) :
    d.list p = .error e := by
  unfold list stat locate
  rw [h]

lemma lookup_ne_nil {content : Content} (h : d.lookup place = some (.file content)) :
    place ≠ [] := by
  rintro rfl
  simp [lookup] at h

lemma isFile_iff {p : Path} :
    d.isFile p = true ↔ ∃ place content, d.stat p = .ok (place, .file content) := by
  unfold isFile
  split
  · next place content hstat => simp [hstat]
  · next hstat =>
    simp only [Bool.false_eq_true, false_iff, not_exists]
    exact fun place content h => hstat place content h

/-- A path leads to a file as long as no directory goes and files stay files. -/
lemma isFile_mono
    (hdirectory : ∀ place, d.lookup place = some .directory → d'.lookup place = some .directory)
    (hfile : ∀ place content, d.lookup place = some (.file content) →
      ∃ content', d'.lookup place = some (.file content'))
    {p : Path} (h : d.isFile p = true) : d'.isFile p = true := by
  obtain ⟨place, content, hstat⟩ := isFile_iff.mp h
  obtain ⟨here, name, hlocate, rfl, hsize, hlookup⟩ := stat_eq_file hstat
  obtain ⟨content', hlookup'⟩ := hfile _ _ hlookup
  have hlocate' := locate_mono hdirectory hlocate
  have hsize : ¬maxName < name.utf8ByteSize := by omega
  refine isFile_iff.mpr ⟨here ++ [name], content', ?_⟩
  simp [stat, hlocate', step, hsize, hlookup']

lemma isFile_join_iff {name : String} (hname : IsPlain name) {p : Path}
    (hwalk : d.walk [] p.segments = .ok here) :
    d.isFile (p.join name) = true ↔
      checkPath (p.join name) = .ok () ∧ name.utf8ByteSize ≤ maxName ∧
        ∃ content, d.lookup (here ++ [name]) = some (.file content) := by
  rw [isFile_iff, stat_join hname hwalk]
  cases checkPath (p.join name) with
  | error e => simp
  | ok _ =>
    by_cases hsize : maxName < name.utf8ByteSize
    · have hle : ¬name.utf8ByteSize ≤ maxName := by omega
      simp [hsize, hle]
    · have hle : name.utf8ByteSize ≤ maxName := by omega
      cases d.lookup (here ++ [name]) with
      | none => simp [hsize]
      | some entry => simp [hsize, hle]

/-! ### Making an entry -/

lemma lookup_insert_of_ne (h : place' ≠ place) (entry : Entry) :
    (d.insert place entry).lookup place' = d.lookup place' := by
  have hne : ¬place = place' := fun he => h he.symm
  unfold lookup insert
  split
  · rfl
  · rw [List.find?_append]
    simp [hne]

lemma lookup_insert_self (hplace : place ≠ []) (h : d.lookup place = none) (entry : Entry) :
    (d.insert place entry).lookup place = some entry := by
  unfold lookup at h ⊢
  rw [if_neg hplace] at h ⊢
  rw [Option.map_eq_none_iff] at h
  simp [insert, List.find?_append, h]

/-- A path still leads where it led when there is a new entry. -/
lemma walk_insert (h : d.lookup place = none) (entry : Entry) {segments : List String}
    {there : Place} (hwalk : d.walk here segments = .ok there) :
    (d.insert place entry).walk here segments = .ok there := by
  refine walk_mono (fun place' hdirectory => ?_) hwalk
  rw [lookup_insert_of_ne]
  · exact hdirectory
  · rintro rfl
    rw [h] at hdirectory
    cases hdirectory

/-- A new entry of a directory is listed last. -/
lemma children_insert (d : Disk) (here : Place) (name : String) (entry : Entry) :
    (d.insert (here ++ [name]) entry).children here = d.children here ++ [(name, entry)] := by
  simp [children, insert, childName?]

/-- Other directories list what they listed. -/
lemma children_insert_of_ne {there : Place} (h : there ≠ here) (name : String) (entry : Entry) :
    (d.insert (here ++ [name]) entry).children there = d.children there := by
  simp [children, insert, childName?, h.symm]

lemma names_insert (here : Place) (name : String) (entry : Entry) :
    ((d.insert (here ++ [name]) entry).children here).map (·.1) =
      (d.children here).map (·.1) ++ [name] := by
  rw [children_insert, List.map_append]
  rfl

/-- A name at which nothing stands is not listed. -/
lemma not_mem_names_of_lookup_eq_none {name : String} (h : d.lookup (here ++ [name]) = none) :
    name ∉ (d.children here).map (·.1) := by
  have hnone : ∀ e ∈ d.entries, e.1 ≠ here ++ [name] := by
    simpa [lookup] using h
  intro hmem
  rw [names_eq] at hmem
  obtain ⟨place, hplace, hchild⟩ := List.mem_filterMap.mp hmem
  obtain ⟨e, he, rfl⟩ := List.mem_map.mp hplace
  exact hnone e he (childName?_eq_some_iff.mp hchild)

/-! ### Removing an entry -/

lemma lookup_erase_self (hplace : place ≠ []) : (d.erase place).lookup place = none := by
  unfold lookup erase
  rw [if_neg hplace, Option.map_eq_none_iff, List.find?_eq_none]
  intro e he
  simpa using (List.mem_filter.mp he).2

lemma lookup_erase_of_ne (h : place' ≠ place) :
    (d.erase place).lookup place' = d.lookup place' := by
  unfold lookup erase
  split
  · rfl
  · rw [List.find?_filter]
    congr 2
    funext e
    by_cases he : e.1 = place'
    · simp [he, h]
    · simp [he]

lemma isFile_of_remove_eq_ok {p : Path} (h : d.remove p = .ok d') : d.isFile p = true := by
  unfold remove at h
  split at h
  · cases h
  · cases h
  · next place content hstat => exact isFile_iff.mpr ⟨place, content, hstat⟩

lemma remove_eq_error {p : Path} (h : d.isFile p = false) : ∃ e, d.remove p = .error e := by
  cases hremove : d.remove p with
  | error e => exact ⟨e, rfl⟩
  | ok d' =>
    rw [isFile_of_remove_eq_ok hremove] at h
    cases h

lemma remove_join {name : String} (hname : IsPlain name) {p : Path}
    (hwalk : d.walk [] p.segments = .ok here) (h : d.isFile (p.join name) = true) :
    d.remove (p.join name) = .ok (d.erase (here ++ [name])) := by
  obtain ⟨hpath, hsize, content, hlookup⟩ := (isFile_join_iff hname hwalk).mp h
  have hsize : ¬maxName < name.utf8ByteSize := by omega
  unfold remove
  rw [stat_join hname hwalk, hpath, hlookup]
  simp only [if_neg hsize]

/-- A path still leads where it led when a file is gone. -/
lemma walk_erase {content : Content} (hfile : d.lookup place = some (.file content))
    {segments : List String} {there : Place} (hwalk : d.walk here segments = .ok there) :
    (d.erase place).walk here segments = .ok there := by
  refine walk_mono (fun place' hdirectory => ?_) hwalk
  rw [lookup_erase_of_ne]
  · exact hdirectory
  · rintro rfl
    rw [hfile] at hdirectory
    cases hdirectory

/-- Removing a file leaves the other files of its directory. -/
lemma isFile_erase_join_iff {name name' : String} (hname : IsPlain name) (hname' : IsPlain name')
    {p : Path} (hwalk : d.walk [] p.segments = .ok here) (h : d.isFile (p.join name') = true) :
    (d.erase (here ++ [name'])).isFile (p.join name) = true ↔
      d.isFile (p.join name) = true ∧ name ≠ name' := by
  obtain ⟨-, -, content, hfile⟩ := (isFile_join_iff hname' hwalk).mp h
  rw [isFile_join_iff hname (walk_erase hfile hwalk), isFile_join_iff hname hwalk]
  by_cases heq : name = name'
  · subst heq
    simp [lookup_erase_self]
  · have hne : here ++ [name] ≠ here ++ [name'] := by simpa using heq
    rw [lookup_erase_of_ne hne]
    simp [heq]

/-! ### Writing to a file -/

lemma lookup_replace_of_ne (h : place' ≠ place) (entry : Entry) :
    (d.replace place entry).lookup place' = d.lookup place' := by
  obtain ⟨entries, full⟩ := d
  unfold lookup replace
  split
  · rfl
  · congr 1
    induction entries with
    | nil => rfl
    | cons e rest ih =>
      have hne : ¬place = place' := fun he => h he.symm
      rw [List.map_cons, List.find?_cons, List.find?_cons]
      by_cases he : e.1 = place
      · rw [if_pos he]
        simp only [he, hne, decide_false]
        exact ih
      · rw [if_neg he]
        cases decide (e.1 = place') with
        | true => rfl
        | false => exact ih

lemma lookup_replace_self {old : Content} (h : d.lookup place = some (.file old))
    (entry : Entry) : (d.replace place entry).lookup place = some entry := by
  have hplace := lookup_ne_nil h
  obtain ⟨entries, full⟩ := d
  unfold lookup replace at *
  rw [if_neg hplace] at *
  induction entries with
  | nil => simp at h
  | cons e rest ih =>
    rw [List.map_cons, List.find?_cons]
    rw [List.find?_cons] at h
    by_cases he : e.1 = place
    · simp [he]
    · simp only [he, decide_false] at h
      rw [if_neg he]
      simp only [he, decide_false]
      exact ih h

/-- The two disks differ at most in what is written in their files. -/
structure Alike (d d' : Disk) : Prop where
  places : d.entries.map (·.1) = d'.entries.map (·.1)
  kinds : ∀ place, (d.lookup place).map Entry.isDirectory = (d'.lookup place).map Entry.isDirectory

namespace Alike

protected lemma refl (d : Disk) : Alike d d := ⟨rfl, fun _ => rfl⟩

protected lemma symm (h : Alike d d') : Alike d' d :=
  ⟨h.places.symm, fun place => (h.kinds place).symm⟩

protected lemma trans (h : Alike d d') (h' : Alike d' d'') : Alike d d'' :=
  ⟨h.places.trans h'.places, fun place => (h.kinds place).trans (h'.kinds place)⟩

lemma lookup_directory (h : Alike d d') (hlookup : d.lookup place = some .directory) :
    d'.lookup place = some .directory := by
  have hkind := h.kinds place
  rw [hlookup] at hkind
  cases hd : d'.lookup place with
  | none => simp [hd] at hkind
  | some entry =>
    cases entry with
    | file content => simp [hd, Entry.isDirectory] at hkind
    | directory => rfl

lemma lookup_file (h : Alike d d') {content : Content}
    (hlookup : d.lookup place = some (.file content)) :
    ∃ content', d'.lookup place = some (.file content') := by
  have hkind := h.kinds place
  rw [hlookup] at hkind
  cases hd : d'.lookup place with
  | none => simp [hd] at hkind
  | some entry =>
    cases entry with
    | file content' => exact ⟨content', rfl⟩
    | directory => simp [hd, Entry.isDirectory] at hkind

lemma walk_eq_ok_iff (h : Alike d d') {segments : List String} {there : Place} :
    d.walk here segments = .ok there ↔ d'.walk here segments = .ok there :=
  ⟨walk_mono fun _ => h.lookup_directory, walk_mono fun _ => h.symm.lookup_directory⟩

lemma isFile_eq (h : Alike d d') (p : Path) : d.isFile p = d'.isFile p := by
  rw [Bool.eq_iff_iff]
  exact ⟨isFile_mono (fun _ => h.lookup_directory) fun _ _ => h.lookup_file,
    isFile_mono (fun _ => h.symm.lookup_directory) fun _ _ => h.symm.lookup_file⟩

lemma list_eq_ok_iff (h : Alike d d') {p : Path} {names : List String} :
    d.list p = .ok names ↔ d'.list p = .ok names := by
  have hnames (here : Place) : (d.children here).map (·.1) = (d'.children here).map (·.1) := by
    rw [names_eq, names_eq, h.places]
  simp only [Disk.list_eq_ok_iff, h.walk_eq_ok_iff, hnames]

end Alike

/-- Text that is appended to a file leaves a disk alike. -/
lemma alike_append (d : Disk) (p : Path) (text : String) : Alike d (d.append p text).2 := by
  unfold append
  split
  · exact .refl d
  · split
    · next place old hstat =>
      obtain ⟨-, -, -, -, -, hlookup⟩ := stat_eq_file hstat
      refine ⟨by simp [replace, apply_ite], fun place' => ?_⟩
      by_cases hplace : place' = place
      · subst hplace
        rw [hlookup, lookup_replace_self hlookup]
        rfl
      · rw [lookup_replace_of_ne hplace]
    · exact .refl d

end Disk

end ClipboardWatchdog
