import ClipboardWatchdog.Proofs.Storage.Entries

/-!
# Making directories and writing files

Making directories adds entries where nothing stood: the disk has `Grown`, and whatever could be
read before can be read still. Writing a file leaves the text in it, or nothing if the disk is full;
where the path leads to no file, nothing is touched (`Wrote`).
-/

namespace ClipboardWatchdog

open ClipboardWatchdog.Path

variable {d d' d'' : Disk} {p : Path} {here place : Place} {name : String}

namespace Disk

/-- What is written in the file that a path leads to. -/
def content? (d : Disk) (p : Path) : Option Content := (d.read p).toOption

lemma content?_eq_some_iff {content : Content} :
    d.content? p = some content ↔ ∃ place, d.stat p = .ok (place, .file content) := by
  cases h : d.stat p with
  | error e => simp [content?, read, h, Except.toOption]
  | ok found =>
    obtain ⟨place, _ | _⟩ := found <;> simp [content?, read, h, Except.toOption]

/-- A path that ends at the name of a file leads to it. -/
lemma content?_of_locate {content : Content} (hlocate : d.locate p = .ok (.named here name false))
    (hsize : name.utf8ByteSize ≤ maxName)
    (hlookup : d.lookup (here ++ [name]) = some (.file content)) :
    d.content? p = some content := by
  have hsize : ¬maxName < name.utf8ByteSize := by omega
  exact content?_eq_some_iff.mpr ⟨here ++ [name], by simp [stat, hlocate, step, hsize, hlookup]⟩

/-! ### Growing -/

/-- The second disk has all that the first has. -/
structure Grown (d d' : Disk) : Prop where
  kept : ∀ place entry, d.lookup place = some entry → d'.lookup place = some entry
  full : d'.full = d.full

namespace Grown

protected lemma refl (d : Disk) : Grown d d := ⟨fun _ _ h => h, rfl⟩

protected lemma trans (h : Grown d d') (h' : Grown d' d'') : Grown d d'' :=
  ⟨fun place entry hd => h'.kept place entry (h.kept place entry hd), h'.full.trans h.full⟩

/-- A text that can be read can still be read when the disk has grown. -/
lemma content? {content : Content} (h : Grown d d') (hd : d.content? p = some content) :
    d'.content? p = some content := by
  obtain ⟨place, hstat⟩ := content?_eq_some_iff.mp hd
  obtain ⟨here, name, hlocate, rfl, hsize, hlookup⟩ := stat_eq_file hstat
  refine content?_of_locate (locate_mono (fun place hplace => ?_) hlocate) hsize ?_
  · exact h.kept place _ hplace
  · exact h.kept _ _ hlookup

lemma content?_eq_none (h : Grown d d') (hd : d'.content? p = none) : d.content? p = none := by
  cases hcontent : d.content? p with
  | none => rfl
  | some content =>
    rw [h.content? hcontent] at hd
    cases hd

end Grown

lemma grown_insert (h : d.lookup place = none) (entry : Entry) :
    Grown d (d.insert place entry) where
  kept place' entry' hentry := by
    rw [lookup_insert_of_ne]
    · exact hentry
    · rintro rfl
      rw [h] at hentry
      cases hentry
  full := rfl

lemma grown_of_makeDirectory_eq_ok (h : d.makeDirectory p = .ok d') : Grown d d' := by
  unfold makeDirectory at h
  split at h
  · cases h
  · cases h
  · split at h
    · cases h
    · cases h
    · next place hstep =>
      cases h
      unfold step at hstep
      split at hstep
      · cases hstep
      · obtain ⟨rfl, hlookup⟩ := Prod.mk.inj (Except.ok.inj hstep)
        exact grown_insert hlookup _

/-! ### The directory above -/

end Disk

namespace Path

lemma trimIdle_isPrefix (segments : List String) : trimIdle segments <+: segments := by
  have hback (xs : List String) : (xs.reverse.dropWhile isIdle).reverse <+: xs := by
    rw [← List.reverse_suffix, List.reverse_reverse]
    exact List.dropWhile_suffix _
  unfold trimIdle
  split
  · exact List.prefix_cons_inj _ |>.mpr (hback _)
  · exact hback _

lemma dropLast_isPrefix_dropLast {xs ys : List String} (h : xs <+: ys) :
    xs.dropLast <+: ys.dropLast := by
  obtain ⟨rest, rfl⟩ := h
  rcases List.eq_nil_or_concat rest with rfl | ⟨rest, last, rfl⟩
  · simp
  · rw [List.concat_eq_append, ← List.append_assoc, List.dropLast_concat]
    exact (List.dropLast_prefix _).trans (List.prefix_append _ _)

/-- The path of the directory above is a front part of the path, without its last segment. -/
lemma segments_prefix_of_parent? {parent : Path} (h : p.parent? = some parent) :
    parent.segments <+: p.segments.dropLast := by
  unfold parent? at h
  split at h
  · cases h
  · cases h
  · cases h
    exact (trimIdle_isPrefix _).trans (dropLast_isPrefix_dropLast (trimIdle_isPrefix _))

/-- A front part of a path is spelled by the front part of its characters. -/
lemma chars_isPrefix {q : Path} (h : p.segments <+: q.segments) : p.chars <+: q.chars := by
  obtain ⟨xs⟩ := p
  obtain ⟨ys⟩ := q
  simp only [chars] at h ⊢
  induction xs generalizing ys with
  | nil => exact List.nil_prefix
  | cons x xs ih =>
    cases ys with
    | nil => simp at h
    | cons y ys =>
      obtain ⟨rfl, hrest⟩ := List.cons_prefix_cons.mp h
      have htail := ih ys hrest
      cases xs with
      | nil => cases ys <;> simp [List.intercalate_cons_cons]
      | cons x' xs =>
        cases ys with
        | nil => simp at hrest
        | cons y' ys =>
          simp only [List.map_cons, List.intercalate_cons_cons] at htail ⊢
          exact (List.prefix_append_right_inj _).mpr htail

/-- A name at the end of a path stands behind a slash, unless it is all that there is. -/
lemma chars_concat {segments : List String} (h : segments ≠ []) (name : String) :
    (Path.mk (segments ++ [name])).chars = (Path.mk segments).chars ++ '/' :: name.toList := by
  simp only [chars]
  induction segments with
  | nil => exact absurd rfl h
  | cons x xs ih =>
    cases xs with
    | nil => simp [List.intercalate_cons_cons]
    | cons y ys =>
      have hrest := ih (by simp)
      simp only [List.cons_append, List.map_cons, List.intercalate_cons_cons] at hrest ⊢
      rw [hrest, List.append_assoc, List.append_assoc, List.append_assoc]

/-- A name is joined to a path behind a slash, which may be the one at the end of the path. -/
lemma chars_join (hname : IsPlain name) (hp : p.chars ≠ []) :
    ∃ slash, (slash = [] ∨ slash = ['/']) ∧
      (p.join name).chars = p.chars ++ (slash ++ name.toList) := by
  obtain ⟨segments⟩ := p
  have hjoin : join ⟨segments⟩ name = ⟨stem ⟨segments⟩ ++ [name]⟩ := by
    rw [← segments_join_of_isPlain hname]
  rw [hjoin]
  unfold stem
  split
  · next hlast =>
    -- the path ends in a slash, and the name takes the place of the nothing behind it
    obtain ⟨front, rfl⟩ := List.getLast?_eq_some_iff.mp hlast
    have hfront : front ≠ [] := by
      rintro rfl
      exact hp rfl
    refine ⟨[], .inl rfl, ?_⟩
    dsimp only
    rw [List.dropLast_concat, chars_concat hfront, chars_concat hfront, List.append_assoc]
    rfl
  · have hsegments : segments ≠ [] := by
      rintro rfl
      exact hp rfl
    exact ⟨['/'], .inr rfl, chars_concat hsegments name⟩

lemma chars_isPrefix_join (hname : IsPlain name) (p : Path) : p.chars <+: (p.join name).chars := by
  by_cases hp : p.chars = []
  · rw [hp]
    exact List.nil_prefix
  · obtain ⟨slash, -, hchars⟩ := chars_join hname hp
    rw [hchars]
    exact List.prefix_append _ _

end Path

namespace Disk

/-- The paths that can be taken. -/
lemma checkPath_eq_ok_iff : checkPath p = .ok () ↔
    Char.ofNat 0 ∉ p.chars ∧ p.chars ≠ [] ∧ p.toString.utf8ByteSize < maxPath := by
  unfold checkPath
  rw [List.contains_eq_mem]
  by_cases hnul : Char.ofNat 0 ∈ p.chars
  · simp [hnul]
  · by_cases hchars : p.chars = []
    · simp [hchars]
    · by_cases hlong : maxPath ≤ p.toString.utf8ByteSize
      · simp [hnul, hchars, hlong]
      · simp [hnul, hchars, hlong, Nat.lt_of_not_le hlong]

/-- With a path that can be taken, so can all its front parts, but for the empty one. -/
lemma checkPath_eq_ok_of_chars {q : Path} (h : p.chars <+: q.chars) (hp : p.chars ≠ [])
    (hq : checkPath q = .ok ()) : checkPath p = .ok () := by
  obtain ⟨hnul, -, hlong⟩ := checkPath_eq_ok_iff.mp hq
  refine checkPath_eq_ok_iff.mpr ⟨fun hmem => hnul (h.subset hmem), hp, ?_⟩
  obtain ⟨rest, hrest⟩ := h
  simp only [Path.toString, ← hrest, String.ofList_append, String.utf8ByteSize_append] at hlong ⊢
  omega

/-- A name can be taken at a path that can be, if both are short. -/
lemma checkPath_join (hname : IsPlain name) (hp : checkPath p = .ok ())
    (hnul : Char.ofNat 0 ∉ name.toList)
    (hsize : p.toString.utf8ByteSize + 1 + name.utf8ByteSize < maxPath) :
    checkPath (p.join name) = .ok () := by
  obtain ⟨hnul', hchars, -⟩ := checkPath_eq_ok_iff.mp hp
  obtain ⟨slash, hslash, hjoin⟩ := chars_join hname hchars
  have hlength : (String.ofList slash).utf8ByteSize ≤ 1 := by
    rcases hslash with rfl | rfl <;> decide
  have hslash : Char.ofNat 0 ∉ slash := by
    rcases hslash with rfl | rfl <;> decide
  rw [checkPath_eq_ok_iff, Path.toString, hjoin, String.ofList_append, String.ofList_append,
    String.utf8ByteSize_append, String.utf8ByteSize_append, String.ofList_toList]
  unfold Path.toString at hsize
  exact ⟨by simp [hnul', hslash, hnul], by simp [hchars], by omega⟩

lemma checkPath_eq_ok_of_prefix {q : Path} (h : p.segments <+: q.segments) (hp : p.chars ≠ [])
    (hq : checkPath q = .ok ()) : checkPath p = .ok () :=
  checkPath_eq_ok_of_chars (chars_isPrefix h) hp hq

/-- A path that is followed up to its last segment has a directory above. -/
lemma isDirectory_parent {parent : Path} (hparent : p.parent? = some parent)
    (hchars : parent.chars ≠ []) (hpath : checkPath p = .ok ())
    (hwalk : d.walk [] p.segments.dropLast = .ok here) : d.isDirectory parent = true := by
  have hfront := segments_prefix_of_parent? hparent
  have hpath' : checkPath parent = .ok () :=
    checkPath_eq_ok_of_prefix (hfront.trans (List.dropLast_prefix _)) hchars hpath
  obtain ⟨rest, hrest⟩ := hfront
  rw [← hrest, walk_append] at hwalk
  cases hthere : d.walk [] parent.segments with
  | error e =>
    rw [hthere] at hwalk
    cases hwalk
  | ok there =>
    have hstat := stat_eq_directory_iff.mpr ⟨hpath', hthere⟩
    simp [isDirectory, hstat]

/-- Where there is no directory above a path, there is none at the path. -/
lemma isDirectory_eq_false_of_parent {parent : Path} (hparent : p.parent? = some parent)
    (hchars : parent.chars ≠ []) (h : d.isDirectory parent = false) : d.isDirectory p = false := by
  by_contra hp
  rw [Bool.not_eq_false] at hp
  unfold isDirectory at hp
  split at hp
  · next there hstat =>
    obtain ⟨hpath, hwalk⟩ := stat_eq_directory_iff.mp hstat
    obtain ⟨rest, hrest⟩ := List.dropLast_prefix p.segments
    rw [← hrest, walk_append] at hwalk
    cases hfront : d.walk [] p.segments.dropLast with
    | error e =>
      rw [hfront] at hwalk
      cases hwalk
    | ok here =>
      rw [isDirectory_parent hparent hchars hpath hfront] at h
      cases h
  · cases hp

/-- A path that leads to a file is followed up to its last segment. -/
lemma walk_dropLast_of_locate (h : d.locate p = .ok (.named here name false)) :
    checkPath p = .ok () ∧ d.walk [] p.segments.dropLast = .ok here := by
  unfold locate at h
  split at h
  · cases h
  · next hpath =>
    refine ⟨hpath, ?_⟩
    dsimp only at h
    split at h
    · cases h
    · next last front hrest =>
      split at h
      · cases h
      · next there hwalk =>
        split at h
        · cases h
        · split at h
          · cases h
          · -- the path does not end in slashes, so its last segment is the name
            obtain ⟨rfl, rfl, hslashes⟩ := End.named.inj (Except.ok.inj h)
            rw [Bool.not_eq_false', List.isEmpty_iff] at hslashes
            rw [hslashes, List.length_nil, List.drop_zero] at hrest
            have hsegments : p.segments = front.reverse ++ [last] := by
              rw [← List.reverse_reverse p.segments, hrest, List.reverse_cons]
            rw [hsegments, List.dropLast_concat]
            exact hwalk

/-- Where there is no directory above a path, there is no text at the path. -/
lemma content?_eq_none_of_parent {parent : Path} (hparent : p.parent? = some parent)
    (hchars : parent.chars ≠ []) (h : d.isDirectory parent = false) : d.content? p = none := by
  rw [Option.eq_none_iff_forall_ne_some]
  intro content hcontent
  obtain ⟨place, hstat⟩ := content?_eq_some_iff.mp hcontent
  obtain ⟨here, name, hlocate, -⟩ := stat_eq_file hstat
  obtain ⟨hpath, hwalk⟩ := walk_dropLast_of_locate hlocate
  rw [isDirectory_parent hparent hchars hpath hwalk] at h
  cases h

/-! ### Errors

Of all that is done here, only writing finds a file too large. -/

variable {e : DiskError}

lemma ne_fileTooLarge_of_checkPath (h : checkPath p = .error e) : e ≠ .fileTooLarge := by
  rintro rfl
  unfold checkPath at h
  split at h
  · cases h
  · split at h
    · cases h
    · split at h <;> cases h

lemma ne_fileTooLarge_of_step (h : d.step here name = .error e) : e ≠ .fileTooLarge := by
  rintro rfl
  unfold step at h
  split at h <;> cases h

lemma ne_fileTooLarge_of_walk {segments : List String} (h : d.walk here segments = .error e) :
    e ≠ .fileTooLarge := by
  induction segments generalizing here with
  | nil => cases h
  | cons segment rest ih =>
    unfold walk at h
    split at h
    · exact ih h
    · split at h
      · exact ih h
      · split at h
        · next hstep =>
          cases h
          exact ne_fileTooLarge_of_step hstep
        · exact ih h
        · cases h
          simp
        · cases h
          simp

lemma ne_fileTooLarge_of_locate (h : d.locate p = .error e) : e ≠ .fileTooLarge := by
  unfold locate at h
  split at h
  · next hpath =>
    cases h
    exact ne_fileTooLarge_of_checkPath hpath
  · dsimp only at h
    split at h
    · cases h
    · split at h
      · next hwalk =>
        cases h
        exact ne_fileTooLarge_of_walk hwalk
      · split at h
        · cases h
        · split at h <;> cases h

lemma ne_fileTooLarge_of_makeDirectory (h : d.makeDirectory p = .error e) : e ≠ .fileTooLarge := by
  unfold makeDirectory at h
  split at h
  · next hlocate =>
    cases h
    exact ne_fileTooLarge_of_locate hlocate
  · cases h
    simp
  · split at h
    · next hstep =>
      cases h
      exact ne_fileTooLarge_of_step hstep
    · cases h
      simp
    · cases h

/-! ### Making directories -/

/-- What comes of making a directory and those above it. The disk has grown; where no directory has
come of it, the disk is as it was or the path leads to no directory. -/
inductive Prepared (d : Disk) (p : Path) : Except DiskError Unit × Disk → Prop
  | made {d' : Disk} (hgrown : Grown d d') : Prepared d p (.ok (), d')
  | refused {e : DiskError} {d' : Disk} (hgrown : Grown d d') (he : e ≠ .fileTooLarge)
    (hnone : d' = d ∨ p.chars ≠ [] ∧ d'.isDirectory p = false) : Prepared d p (.error e, d')

lemma prepared_makeDirectories (d : Disk) (p : Path) (fuel : ℕ) :
    Prepared d p (d.makeDirectories p fuel) := by
  fun_induction makeDirectories d p fuel with
  | case1 p => exact .refused (.refl d) (by simp) (.inl rfl)
  | case2 p fuel hchars => exact .made (.refl d)
  | case3 p fuel hchars d' hmake => exact .made (grown_of_makeDirectory_eq_ok hmake)
  | case4 p fuel hchars hmake hparent => exact .refused (.refl d) (by simp) (.inl rfl)
  | case5 p fuel hchars hmake parent hparent e d' hparents ih =>
    rw [hparents] at ih
    cases ih with
    | refused hgrown he hnone =>
      refine .refused hgrown he ?_
      rcases hnone with rfl | ⟨hparentChars, hnone⟩
      · exact .inl rfl
      · exact .inr ⟨hchars, isDirectory_eq_false_of_parent hparent hparentChars hnone⟩
  | case6 p fuel hchars hmake parent hparent d' hparents d'' hmake' ih =>
    rw [hparents] at ih
    cases ih with
    | made hgrown => exact .made (hgrown.trans (grown_of_makeDirectory_eq_ok hmake'))
  | case7 p fuel hchars hmake parent hparent d' hparents e hmake' hthere ih =>
    rw [hparents] at ih
    cases ih with
    | made hgrown => exact .made hgrown
  | case8 p fuel hchars hmake parent hparent d' hparents e hmake' hnone ih =>
    rw [hparents] at ih
    cases ih with
    | made hgrown =>
      exact .refused hgrown (ne_fileTooLarge_of_makeDirectory hmake')
        (.inr ⟨hchars, Bool.not_eq_true _ |>.mp hnone⟩)
  | case9 p fuel hchars e he hmake hthere => exact .made (.refl d)
  | case10 p fuel hchars e he hmake hnone =>
    exact .refused (.refl d) (ne_fileTooLarge_of_makeDirectory hmake) (.inl rfl)

/-- Making the directories above a file leaves what is written in it, even if they cannot all be
made. -/
lemma content?_of_ensureDirectory_eq_error {parent : Path} (hparent : p.parent? = some parent)
    (h : d.ensureDirectory parent = (.error e, d')) :
    e ≠ .fileTooLarge ∧ d'.content? p = d.content? p := by
  have hprepared := prepared_makeDirectories d parent (parent.segments.length + 1)
  change Prepared d parent (d.ensureDirectory parent) at hprepared
  rw [h] at hprepared
  cases hprepared with
  | refused hgrown he hnone =>
    refine ⟨he, ?_⟩
    rcases hnone with rfl | ⟨hchars, hnone⟩
    · rfl
    · have hnone' : d'.content? p = none := content?_eq_none_of_parent hparent hchars hnone
      rw [hnone', hgrown.content?_eq_none hnone']

lemma grown_of_ensureDirectory (d : Disk) (p : Path) : Grown d (d.ensureDirectory p).2 := by
  have hprepared := prepared_makeDirectories d p (p.segments.length + 1)
  change Prepared d p (d.ensureDirectory p) at hprepared
  match d.ensureDirectory p, hprepared with
  | _, .made hgrown => exact hgrown
  | _, .refused hgrown _ _ => exact hgrown

/-- A directory that is there is not made once more. -/
lemma makeDirectory_of_stat (h : d.stat p = .ok (here, .directory)) :
    d.makeDirectory p = .error .alreadyExists := by
  unfold makeDirectory
  unfold stat at h
  cases hlocate : d.locate p with
  | error e =>
    rw [hlocate] at h
    cases h
  | ok e =>
    cases e with
    | inside place => rfl
    | named there name strict =>
      rw [hlocate] at h
      dsimp only at h ⊢
      cases hstep : d.step there name with
      | error e =>
        rw [hstep] at h
        cases h
      | ok found =>
        obtain ⟨place, entry⟩ := found
        cases entry with
        | some entry => rfl
        | none =>
          rw [hstep] at h
          cases h

lemma ensureDirectory_of_stat (h : d.stat p = .ok (here, .directory)) :
    d.ensureDirectory p = (.ok (), d) := by
  have hchars : p.chars ≠ [] := by
    intro hnil
    have hpath := (stat_eq_directory_iff.mp h).1
    unfold checkPath at hpath
    rw [hnil] at hpath
    cases hpath
  have hthere : d.isDirectory p = true := by
    unfold isDirectory
    rw [h]
  unfold ensureDirectory makeDirectories
  rw [if_neg hchars, makeDirectory_of_stat h]
  dsimp only
  rw [if_pos hthere]

/-! ### Writing a file -/

/-- What comes of writing a file. The text stands in the file, or nothing does because the disk is
full; or the path leads to no file and could not be made to. -/
inductive Wrote (d : Disk) (p : Path) (text : String) : Except DiskError Unit × Disk → Prop
  | whole {d' : Disk} (h : d'.content? p = some (.text text)) : Wrote d p text (.ok (), d')
  | nothing {d' : Disk} (h : d'.content? p = some (.text "")) :
    Wrote d p text (.error .fileTooLarge, d')
  | refused {e : DiskError} (he : e ≠ .fileTooLarge) (h : d.content? p = none) :
    Wrote d p text (.error e, d)

/-- A file that a path leads to has what is put into it. -/
lemma content?_replace {old new : Content} (hlocate : d.locate p = .ok (.named here name false))
    (hsize : name.utf8ByteSize ≤ maxName) (hlookup : d.lookup (here ++ [name]) = some (.file old)) :
    (d.replace (here ++ [name]) (.file new)).content? p = some new := by
  refine content?_of_locate (locate_mono (fun place hplace => ?_) hlocate) hsize
    (lookup_replace_self hlookup _)
  rw [lookup_replace_of_ne]
  · exact hplace
  · rintro rfl
    rw [hlookup] at hplace
    cases hplace

/-- Filling a file with a text. -/
lemma wrote_replace {old : Content} (hlocate : d'.locate p = .ok (.named here name false))
    (hsize : name.utf8ByteSize ≤ maxName) (hlookup : d'.lookup (here ++ [name]) = some (.file old))
    (text : String) :
    Wrote d p text
      (if d'.full then (.error .fileTooLarge, d'.replace (here ++ [name]) (.file (.text "")))
      else (.ok (), d'.replace (here ++ [name]) (.file (.text text)))) := by
  split
  · exact .nothing (content?_replace hlocate hsize hlookup)
  · exact .whole (content?_replace hlocate hsize hlookup)

lemma wrote_write (d : Disk) (p : Path) (text : String) : Wrote d p text (d.write p text) := by
  unfold write
  cases hlocate : d.locate p with
  | error e =>
    refine .refused (ne_fileTooLarge_of_locate hlocate) ?_
    simp [content?, read, stat, hlocate, Except.toOption]
  | ok e =>
    cases e with
    | inside place =>
      refine .refused (by simp) ?_
      simp [content?, read, stat, hlocate, Except.toOption]
    | named here name strict =>
      cases strict with
      | true =>
        refine .refused (by simp) ?_
        rw [Option.eq_none_iff_forall_ne_some]
        intro content hcontent
        obtain ⟨place, hstat⟩ := content?_eq_some_iff.mp hcontent
        obtain ⟨here', name', hlocate', -⟩ := stat_eq_file hstat
        simp [hlocate] at hlocate'
      | false =>
        dsimp only
        rw [if_neg Bool.false_ne_true]
        by_cases hsize : maxName < name.utf8ByteSize
        · have hstep : d.step here name = .error .nameTooLong := if_pos hsize
          rw [hstep]
          refine .refused (by simp) ?_
          simp [content?, read, stat, hlocate, hstep, Except.toOption]
        · have hstep : d.step here name = .ok (here ++ [name], d.lookup (here ++ [name])) :=
            if_neg hsize
          have hfits : name.utf8ByteSize ≤ maxName := by omega
          rw [hstep]
          cases hlookup : d.lookup (here ++ [name]) with
          | none =>
            -- the file is made first, and the path leads to it as it led to its place
            have hgrown := grown_insert hlookup (.file (.text ""))
            exact wrote_replace (locate_mono (fun place => hgrown.kept place _) hlocate) hfits
              (lookup_insert_self (by simp) hlookup _) text
          | some entry =>
            cases entry with
            | directory =>
              refine .refused (by simp) ?_
              simp [content?, read, stat, hlocate, hstep, hlookup, Except.toOption]
            | file old => exact wrote_replace hlocate hfits hlookup text

end Disk

end ClipboardWatchdog
