import ClipboardWatchdog.Storage.Disk
import Mathlib.Data.List.TakeWhile
import Mathlib.Tactic.Common

/-!
# Where paths lead

A path leads through directories alone, so that it leads to the same place as long as no directory
goes (`walk_mono`), whatever becomes of files. From a directory that is reached, a plain name leads
to one entry (`stat_join`), and the entry is all that making and removing a file depend on.
-/

namespace ClipboardWatchdog

/-! ### Plain names -/

namespace Path

/-- A name that stands for one entry of a directory: it has no slash and is not one of the texts
that name a directory relative to another. -/
structure IsPlain (name : String) : Prop where
  noSlash : '/' ∉ name.toList
  notIdle : isIdle name = false
  notUp : name ≠ ".."

/-- What a name that is joined to a path is put after. -/
def stem (p : Path) : List String :=
  if p.segments.getLast? = some "" then p.segments.dropLast else p.segments

lemma segments_join_of_isPlain {name : String} (h : IsPlain name) (p : Path) :
    (p.join name).segments = p.stem ++ [name] := by
  unfold join stem
  split
  · next heq => exact absurd (heq ▸ List.mem_cons_self) h.noSlash
  · simp [cut_of_not_mem h.noSlash]

end Path

namespace Disk

open ClipboardWatchdog.Path

/-! ### Walking -/

variable {d d' : Disk} {here there : Place}

lemma walk_append (d : Disk) (here : Place) (front rest : List String) :
    d.walk here (front ++ rest) =
      match d.walk here front with
      | .error e => .error e
      | .ok there => d.walk there rest := by
  induction front generalizing here with
  | nil => rfl
  | cons segment front ih =>
    simp only [List.cons_append, walk]
    split
    · exact ih here
    · split
      · exact ih here.dropLast
      · split
        · rfl
        · exact ih _
        · rfl
        · rfl

/-- The stem of a path leads where the path leads. -/
lemma walk_stem (d : Disk) (here : Place) (p : Path) :
    d.walk here p.stem = d.walk here p.segments := by
  unfold stem
  split
  · next hlast =>
    have hne : p.segments ≠ [] := by
      intro hnil
      simp [hnil] at hlast
    have hsegments : p.segments = p.segments.dropLast ++ [""] := by
      have hget : p.segments.getLast hne = "" := by
        simpa [List.getLast?_eq_some_getLast hne] using hlast
      rw [← hget, List.dropLast_concat_getLast]
    conv_rhs => rw [hsegments, walk_append]
    cases d.walk here p.segments.dropLast <;> rfl
  · rfl

/-- A path that leads somewhere leads there as long as no directory goes. -/
lemma walk_mono (h : ∀ place, d.lookup place = some .directory → d'.lookup place = some .directory)
    {segments : List String} (hwalk : d.walk here segments = .ok there) :
    d'.walk here segments = .ok there := by
  induction segments generalizing here with
  | nil => exact hwalk
  | cons segment rest ih =>
    simp only [walk] at hwalk ⊢
    split at hwalk
    · next hidle =>
      rw [if_pos hidle]
      exact ih hwalk
    · next hidle =>
      rw [if_neg hidle]
      split at hwalk
      · next hup =>
        rw [if_pos hup]
        exact ih hwalk
      · next hup =>
        rw [if_neg hup]
        -- a name is the only segment that asks what stands on the disk
        unfold step at hwalk ⊢
        split at hwalk
        · cases hwalk
        · next hstep =>
          split at hstep
          · cases hstep
          · next hsize =>
            obtain ⟨rfl, hlookup⟩ := Prod.mk.inj (Except.ok.inj hstep)
            rw [if_neg hsize, h _ hlookup]
            exact ih hwalk
        · cases hwalk
        · cases hwalk

/-- A path that ends somewhere ends there as long as no directory goes. -/
lemma locate_mono
    (h : ∀ place, d.lookup place = some .directory → d'.lookup place = some .directory) {p : Path}
    {e : End} (hlocate : d.locate p = .ok e) : d'.locate p = .ok e := by
  revert hlocate
  unfold locate
  cases checkPath p with
  | error fault => simp
  | ok _ =>
    dsimp only
    generalize p.segments.reverse.drop _ = rest
    cases rest with
    | nil => exact id
    | cons last front =>
      dsimp only
      cases hwalk : d.walk [] front.reverse with
      | error fault => simp
      | ok there =>
        rw [walk_mono h hwalk]
        exact id

/-! ### Entries of a directory -/

/-- A path that stands for a file ends at its entry. -/
lemma stat_eq_file {p : Path} {place : Place} {content : Content}
    (h : d.stat p = .ok (place, .file content)) :
    ∃ here name, d.locate p = .ok (.named here name false) ∧ place = here ++ [name] ∧
      name.utf8ByteSize ≤ maxName ∧ d.lookup place = some (.file content) := by
  unfold stat at h
  split at h
  · cases h
  · cases h
  · next here name strict hlocate =>
    unfold step at h
    by_cases hsize : maxName < name.utf8ByteSize
    · simp [hsize] at h
    · cases hlookup : d.lookup (here ++ [name]) with
      | none => simp [hsize, hlookup] at h
      | some entry =>
        cases entry with
        | directory => simp [hsize, hlookup] at h
        | file content' =>
          cases strict with
          | true => simp [hsize, hlookup] at h
          | false =>
            simp only [hsize, hlookup, if_false, Bool.false_eq_true, Except.ok.injEq,
              Prod.mk.injEq, Entry.file.injEq] at h
            obtain ⟨rfl, rfl⟩ := h
            exact ⟨here, name, hlocate, rfl, by omega, hlookup⟩

lemma locate_join {name : String} (hname : IsPlain name) (d : Disk) (p : Path) :
    d.locate (p.join name) =
      match checkPath (p.join name) with
      | .error e => .error e
      | .ok () =>
        match d.walk [] p.segments with
        | .error e => .error e
        | .ok here => .ok (.named here name false) := by
  have hidle := hname.notIdle
  simp only [isIdle, Bool.or_eq_false_iff, decide_eq_false_iff_not] at hidle
  unfold locate
  rw [segments_join_of_isPlain hname, List.reverse_concat,
    List.takeWhile_cons_of_neg (by simpa using hidle.1)]
  cases checkPath (p.join name) with
  | error e => rfl
  | ok _ =>
    simp only [List.length_nil, List.drop_zero, List.reverse_reverse, walk_stem]
    cases d.walk [] p.segments with
    | error e => rfl
    | ok here => simp [hidle.2, hname.notUp]

/-- What stands at a plain name of a directory that is reached. -/
lemma stat_join {name : String} (hname : IsPlain name) {p : Path}
    (hwalk : d.walk [] p.segments = .ok here) :
    d.stat (p.join name) =
      match checkPath (p.join name) with
      | .error e => .error e
      | .ok () =>
        if maxName < name.utf8ByteSize then .error .nameTooLong
        else
          match d.lookup (here ++ [name]) with
          | none => .error .notFound
          | some entry => .ok (here ++ [name], entry) := by
  unfold stat
  rw [locate_join hname, hwalk]
  cases checkPath (p.join name) with
  | error e => rfl
  | ok _ =>
    unfold step
    by_cases hsize : maxName < name.utf8ByteSize
    · simp only [if_pos hsize]
    · simp only [if_neg hsize]
      cases d.lookup (here ++ [name]) with
      | none => rfl
      | some entry => cases entry <;> rfl

/-- What making a file comes to at a plain name of a directory that is reached. -/
lemma createNew_join {name : String} (hname : IsPlain name) {p : Path}
    (hwalk : d.walk [] p.segments = .ok here) :
    d.createNew (p.join name) =
      match checkPath (p.join name) with
      | .error e => .error e
      | .ok () =>
        if maxName < name.utf8ByteSize then .error .nameTooLong
        else
          match d.lookup (here ++ [name]) with
          | none => .ok (d.insert (here ++ [name]) (.file (.text "")))
          | some _ => .error .alreadyExists := by
  unfold createNew
  rw [locate_join hname, hwalk]
  cases checkPath (p.join name) with
  | error e => rfl
  | ok _ =>
    unfold step
    dsimp only
    by_cases hsize : maxName < name.utf8ByteSize
    · simp only [if_pos hsize, Bool.false_eq_true, if_false]
    · simp only [if_neg hsize, Bool.false_eq_true, if_false]
      cases d.lookup (here ++ [name]) <;> rfl

/-- A file that could be made at a plain name is a new entry of the directory that is reached. -/
lemma createNew_join_eq_ok {name : String} (hname : IsPlain name) {p : Path}
    (h : d.createNew (p.join name) = .ok d') :
    ∃ here, d.walk [] p.segments = .ok here ∧ checkPath (p.join name) = .ok () ∧
      name.utf8ByteSize ≤ maxName ∧ d.lookup (here ++ [name]) = none ∧
        d' = d.insert (here ++ [name]) (.file (.text "")) := by
  cases hwalk : d.walk [] p.segments with
  | error e =>
    unfold createNew at h
    rw [locate_join hname, hwalk] at h
    cases hpath : checkPath (p.join name) <;> simp [hpath] at h
  | ok here =>
    rw [createNew_join hname hwalk] at h
    cases hpath : checkPath (p.join name) with
    | error e => simp [hpath] at h
    | ok _ =>
      by_cases hsize : maxName < name.utf8ByteSize
      · simp [hpath, hsize] at h
      · cases hlookup : d.lookup (here ++ [name]) with
        | some entry => simp [hpath, hsize, hlookup] at h
        | none =>
          simp only [hpath, if_neg hsize, hlookup, Except.ok.injEq] at h
          exact ⟨here, rfl, rfl, by omega, hlookup, h.symm⟩

/-- Idle segments lead nowhere else. -/
lemma walk_of_idle {segments : List String} (h : ∀ s ∈ segments, isIdle s = true) :
    d.walk here segments = .ok here := by
  induction segments with
  | nil => rfl
  | cons segment rest ih =>
    rw [walk, if_pos (h segment List.mem_cons_self)]
    exact ih fun s hs => h s (List.mem_cons_of_mem _ hs)

/-- Neither do the slashes at the end of a path. -/
lemma walk_drop_slashes (d : Disk) (here : Place) (segments : List String) :
    d.walk here (segments.reverse.dropWhile (· = "")).reverse = d.walk here segments := by
  have hidle : ∀ s ∈ (segments.reverse.takeWhile (· = "")).reverse, isIdle s = true := by
    intro s hs
    have hempty := List.mem_takeWhile_imp (List.mem_reverse.mp hs)
    simp [isIdle, of_decide_eq_true hempty]
  have hsegments : segments = (segments.reverse.dropWhile (· = "")).reverse ++
      (segments.reverse.takeWhile (· = "")).reverse := by
    rw [← List.reverse_append, List.takeWhile_append_dropWhile, List.reverse_reverse]
  conv_rhs => rw [hsegments, walk_append]
  cases d.walk here (segments.reverse.dropWhile (· = "")).reverse with
  | error e => rfl
  | ok there => exact (walk_of_idle hidle).symm

/-- A path that can be taken stands for a directory exactly if it leads there. -/
lemma stat_eq_directory_iff {p : Path} :
    d.stat p = .ok (here, .directory) ↔
      checkPath p = .ok () ∧ d.walk [] p.segments = .ok here := by
  have hdrop : p.segments.reverse.drop (p.segments.reverse.takeWhile (· = "")).length =
      p.segments.reverse.dropWhile (· = "") :=
    List.append_cancel_left ((List.prefix_iff_eq_append.mp (List.takeWhile_prefix _)).trans
      List.takeWhile_append_dropWhile.symm)
  have hfirst := List.head?_dropWhile_not (· = "") p.segments.reverse
  rw [← walk_drop_slashes d [] p.segments]
  unfold stat locate
  cases checkPath p with
  | error e => simp
  | ok _ =>
    dsimp only
    rw [hdrop]
    generalize p.segments.reverse.takeWhile (· = "") = slashes
    generalize p.segments.reverse.dropWhile (· = "") = rest at hfirst
    cases rest with
    | nil => simp [walk]
    | cons last front =>
      have hlast : last ≠ "" := of_decide_eq_false hfirst
      simp only [List.reverse_cons, walk_append]
      cases d.walk [] front.reverse with
      | error e => simp
      | ok there =>
        -- the dots of the last segment are followed here as on the way, and so is a name
        by_cases hdot : last = "."
        · simp [hdot, walk, isIdle]
        · by_cases hup : last = ".."
          · simp [hup, walk, isIdle]
          · simp only [hdot, hup, hlast, walk, isIdle, if_false, decide_false, Bool.or_self,
              Bool.false_eq_true]
            cases d.step there last with
            | error e => simp
            | ok place =>
              obtain ⟨place, _ | content | _⟩ := place
              · simp
              · cases slashes.isEmpty <;> simp
              · simp

end Disk

end ClipboardWatchdog
