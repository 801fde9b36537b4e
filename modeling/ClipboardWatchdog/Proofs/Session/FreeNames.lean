import ClipboardWatchdog.Proofs.Session.NameStamps
import ClipboardWatchdog.Proofs.Session.Retaining

/-!
# The first free name

The file of a session takes the name of its start, or of the first second after it whose name is
free. The names of all these seconds are different, also where the start lies in a leap second, so
that sixty more names are tried before the attempt is given up. `Session.openFile_first_free` says
which name is taken, and that the new file is all that changes.
-/

namespace ClipboardWatchdog

/-! ### Later seconds -/

namespace Moment

/-- So many seconds later it is still a moment of the calendar, but not in a leap second. -/
lemma IsRepresentable.later {m : Moment} (h : m.IsRepresentable) {n : ℕ}
    (hlast : m.seconds + n ≤ lastSecond) : (m.later n).IsRepresentable := by
  by_cases hn : n = 0
  · rw [hn, later_zero]
    exact h
  have hnanos := h.nanos
  have hfirst := h.first
  unfold Moment.later isLeap
  rw [if_neg hn]
  refine ⟨?_, hlast, .inl ?_⟩
  · dsimp only
    omega
  · dsimp only
    split
    · omega
    · next hleap => simpa using hleap

end Moment

namespace Session

open Disk

variable {d d' : Disk} {dir : Path} {here : Place} {base : String} {start m m' : Moment}

/-- Moments with one name lie in one second. -/
lemma seconds_eq_of_fileName_eq (h : m.IsRepresentable) (h' : m'.IsRepresentable)
    (hname : fileName base m = fileName base m') : m.seconds = m'.seconds := by
  have hsecond := (nameAt_eq_iff h.isValid h'.isValid).mp hname
  rw [Civil.wholeSecond_ofMoment, Civil.wholeSecond_ofMoment] at hsecond
  have hmoment : m.wholeSecond = m'.wholeSecond := Civil.ofMoment_injective hsecond
  exact (Moment.mk.inj hmoment).1

/-- A name has no character without a place in a path, if its base has none. -/
lemma nul_not_mem_fileName (hbase : Char.ofNat 0 ∉ base.toList) (m : Moment) :
    Char.ofNat 0 ∉ (fileName base m).toList := by
  have hstamp : Char.ofNat 0 ∉ (Civil.ofMoment m).fileText := by
    rw [← Stamp.chars_written]
    exact (Stamp.isSpelled_written _).not_mem_chars (by decide) (by decide) (by decide) (by decide)
      (by decide)
  simp [fileName, nameAt, nameChars, ending, hbase, hstamp]

/-- The names can be taken at a short path that can be. -/
lemma checkPath_candidate {k : ℕ} (hdir : checkPath dir = .ok ())
    (hshort : dir.toString.utf8ByteSize + 1 + maxName < maxPath) (hslash : '/' ∉ base.toList)
    (hnul : Char.ofNat 0 ∉ base.toList) (hstart : (start.later k).IsRepresentable)
    (hsize : (fileName base (start.later k)).utf8ByteSize ≤ maxName) :
    checkPath (candidate dir base start k) = .ok () := by
  refine checkPath_join (isPlain_of_startOf? hslash (startOf?_fileName base hstart.isValid)) hdir
    (nul_not_mem_fileName hnul _) ?_
  omega

/-- A directory under which all the names that may be tried are legal ones, and a start that is far
enough from the end of the calendar for all of them to exist. -/
structure Admits (d : Disk) (dir : Path) (here : Place) (base : String) (start : Moment) :
    Prop where
  stat : d.stat dir = .ok (here, .directory)
  noSlash : '/' ∉ base.toList
  path : ∀ k ≤ maxRetries, checkPath (candidate dir base start k) = .ok ()
  size : ∀ k ≤ maxRetries, (fileName base (start.later k)).utf8ByteSize ≤ maxName
  isRepresentable : start.IsRepresentable
  last : start.seconds + maxRetries ≤ Moment.lastSecond

/-- Something stands under the `k`-th name that is tried, be it a file or a directory. -/
def isTaken (d : Disk) (here : Place) (base : String) (start : Moment) (k : ℕ) : Bool :=
  (d.lookup (here ++ [fileName base (start.later k)])).isSome

/-- A directory has one new entry, an empty file, and nothing else has changed. -/
structure Gained (d d' : Disk) (here : Place) (name : String) : Prop where
  made : d'.children here = d.children here ++ [(name, .file (.text ""))]
  elsewhere : ∀ there ≠ here, d'.children there = d.children there
  file : d'.lookup (here ++ [name]) = some (.file (.text ""))
  others : ∀ place ≠ here ++ [name], d'.lookup place = d.lookup place

namespace Admits

variable {k : ℕ}

lemma isRepresentable_later (h : Admits d dir here base start) (hk : k ≤ maxRetries) :
    (start.later k).IsRepresentable := by
  have hlast := h.last
  exact h.isRepresentable.later (by omega)

lemma isPlain (h : Admits d dir here base start) (hk : k ≤ maxRetries) :
    Path.IsPlain (fileName base (start.later k)) :=
  isPlain_of_startOf? h.noSlash (startOf?_fileName base (h.isRepresentable_later hk).isValid)

/-- No name is tried twice. -/
lemma eq_of_fileName_eq (h : Admits d dir here base start) {j : ℕ} (hj : j ≤ maxRetries)
    (hk : k ≤ maxRetries)
    (hname : fileName base (start.later j) = fileName base (start.later k)) : j = k := by
  have hseconds := seconds_eq_of_fileName_eq (h.isRepresentable_later hj)
    (h.isRepresentable_later hk) hname
  rw [Moment.seconds_later, Moment.seconds_later] at hseconds
  omega

/-- A file is made under a name that is tried unless something stands there. -/
lemma createNew_candidate (h : Admits d dir here base start) (hk : k ≤ maxRetries) :
    d.createNew (candidate dir base start k) =
      if isTaken d here base start k then .error .alreadyExists
      else .ok (d.insert (here ++ [fileName base (start.later k)]) (.file (.text ""))) := by
  have hsize := h.size k hk
  have hpath := h.path k hk
  unfold candidate isTaken at *
  rw [createNew_join (h.isPlain hk) (stat_eq_directory_iff.mp h.stat).2, hpath]
  dsimp only
  rw [if_neg (by omega)]
  cases d.lookup (here ++ [fileName base (start.later k)]) <;> rfl

/-- The file that is made is the one that the path leads to. -/
lemma content?_candidate (h : Admits d dir here base start) (hk : k ≤ maxRetries)
    (hfree : isTaken d here base start k = false) :
    (d.insert (here ++ [fileName base (start.later k)]) (.file (.text ""))).content?
      (candidate dir base start k) = some (.text "") := by
  have hnone : d.lookup (here ++ [fileName base (start.later k)]) = none := by
    simpa [isTaken] using hfree
  have hpath := h.path k hk
  have hwalk := walk_insert hnone (.file (.text "")) (stat_eq_directory_iff.mp h.stat).2
  unfold candidate at *
  refine content?_of_locate ?_ (h.size k hk) (lookup_insert_self (by simp) hnone _)
  rw [locate_join (h.isPlain hk), hpath, hwalk]

lemma isBeyondCalendar_later (h : Admits d dir here base start) (hk : k ≤ maxRetries) :
    (start.later k).isBeyondCalendar = false :=
  Moment.isBeyondCalendar_eq_false_iff.mpr (h.isRepresentable_later hk).last

/-- The names are tried one after the other, up to the first that is free. -/
lemma openFrom_eq (h : Admits d dir here base start) {retries j : ℕ} (hkj : k ≤ j)
    (hj : j ≤ k + retries) (hlast : k + retries ≤ maxRetries)
    (htaken : ∀ i < j, k ≤ i → isTaken d here base start i = true)
    (hfree : isTaken d here base start j = false) :
    openFrom d dir base start retries k = .ok (candidate dir base start j,
      d.insert (here ++ [fileName base (start.later j)]) (.file (.text ""))) := by
  induction retries generalizing k with
  | zero =>
    obtain rfl : k = j := by omega
    have hcreate := h.createNew_candidate (k := k) hlast
    rw [hfree] at hcreate
    unfold openFrom
    rw [hcreate]
    rfl
  | succ retries ih =>
    have hcreate := h.createNew_candidate (k := k) (by omega)
    unfold openFrom
    by_cases hfirst : k = j
    · subst hfirst
      rw [hfree] at hcreate
      rw [hcreate]
      rfl
    · rw [htaken k (by omega) (Nat.le_refl k)] at hcreate
      rw [hcreate]
      simp only [if_true]
      rw [h.isBeyondCalendar_later (k := k + 1) (by omega)]
      exact ih (by omega) (by omega) (by omega) fun i hi hki => htaken i hi (by omega)

/-- Where every name is taken, there is no file. -/
lemma openFrom_eq_error (h : Admits d dir here base start) {retries : ℕ}
    (hlast : k + retries ≤ maxRetries)
    (htaken : ∀ i ≤ k + retries, k ≤ i → isTaken d here base start i = true) :
    openFrom d dir base start retries k = .error (.disk .alreadyExists) := by
  induction retries generalizing k with
  | zero =>
    have hcreate := h.createNew_candidate (k := k) hlast
    rw [htaken k (by omega) (Nat.le_refl k)] at hcreate
    unfold openFrom
    rw [hcreate]
    rfl
  | succ retries ih =>
    have hcreate := h.createNew_candidate (k := k) (by omega)
    rw [htaken k (by omega) (Nat.le_refl k)] at hcreate
    unfold openFrom
    rw [hcreate]
    simp only [if_true]
    rw [h.isBeyondCalendar_later (k := k + 1) (by omega)]
    exact ih (by omega) fun i hi hki => htaken i (by omega) (by omega)

end Admits

/-- Making a file where nothing stands. -/
lemma gained_insert {name : String} (h : d.lookup (here ++ [name]) = none) :
    Gained d (d.insert (here ++ [name]) (.file (.text ""))) here name where
  made := children_insert d here name _
  elsewhere there hne := children_insert_of_ne hne name _
  file := lookup_insert_self (by simp) h _
  others place hne := lookup_insert_of_ne hne _

/-- Which name the file of a session gets: that of the first of sixty-one seconds whose name is
free. These names are all different. The file is made empty in its directory, and everything else
stays as it was; where all the names are taken, no session is started and nothing is changed. -/
theorem openFile_first_free (h : Admits d dir here base start) :
    (∀ j ≤ maxRetries, ∀ k ≤ maxRetries,
      fileName base (start.later j) = fileName base (start.later k) → j = k) ∧
    (∀ k ≤ maxRetries, (∀ j < k, isTaken d here base start j = true) →
      isTaken d here base start k = false →
        ∃ d', openFile d dir base start = .ok (candidate dir base start k, d') ∧
          d'.content? (candidate dir base start k) = some (.text "") ∧
          Gained d d' here (fileName base (start.later k))) ∧
    (openFile d dir base start = .error (.disk .alreadyExists) ↔
      ∀ k ≤ maxRetries, isTaken d here base start k = true) ∧
    ∀ (clock : Clock) (origin : Origin) (role : Role) (helper : String),
      clock.read = .ok start → (∀ k ≤ maxRetries, isTaken d here base start k = true) →
        create d clock origin dir base role helper = (.error (.disk .alreadyExists), d) := by
  have hfree (k : ℕ) (hk : k ≤ maxRetries) (htaken : ∀ j < k, isTaken d here base start j = true)
      (hfree : isTaken d here base start k = false) :
      openFile d dir base start = .ok (candidate dir base start k,
        d.insert (here ++ [fileName base (start.later k)]) (.file (.text ""))) :=
    h.openFrom_eq (Nat.zero_le k) (by omega) (by omega) (fun i hi _ => htaken i hi) hfree
  have hfull (htaken : ∀ k ≤ maxRetries, isTaken d here base start k = true) :
      openFile d dir base start = .error (.disk .alreadyExists) :=
    h.openFrom_eq_error (by omega) fun i hi _ => htaken i (by omega)
  refine ⟨fun j hj k hk => h.eq_of_fileName_eq hj hk, ?_, ⟨?_, hfull⟩, ?_⟩
  · intro k hk htaken hk'
    refine ⟨_, hfree k hk htaken hk', h.content?_candidate hk hk', gained_insert ?_⟩
    simpa [isTaken] using hk'
  · -- of the names that are free, if there are any, one comes first
    intro herror
    by_contra hnot
    have hexists : ∃ k ≤ maxRetries, isTaken d here base start k = false := by simpa using hnot
    obtain ⟨hk, hk'⟩ := Nat.find_spec hexists
    have hbefore : ∀ j < Nat.find hexists, isTaken d here base start j = true := by
      intro j hj
      have hmin := Nat.find_min hexists hj
      rw [not_and, Bool.not_eq_false] at hmin
      exact hmin (by omega)
    rw [hfree _ hk hbefore hk'] at herror
    cases herror
  · intro clock origin role helper hread htaken
    unfold create
    rw [ensureDirectory_of_stat h.stat]
    dsimp only
    rw [hread]
    dsimp only
    rw [hfull htaken]

/-- A directory and a file that have the names of a leap second and of the second after it. -/
def takenTwice : Disk where
  entries :=
    [(["w"], .directory), (["w", "d_2016-12-31_23-59-60.log"], .directory),
      (["w", "d_2017-01-01_00-00-00.log"], .file (.text "old"))]

theorem openFile_first_free_takenTwice :
    let dir := Path.ofString "/w"
    let start : Moment := ⟨1483228799, 1500000000⟩
    Admits takenTwice dir ["w"] "d" start ∧ 2 ≤ maxRetries ∧
      (∀ j < 2, isTaken takenTwice ["w"] "d" start j = true) ∧
      isTaken takenTwice ["w"] "d" start 2 = false ∧
      ∃ d', openFile takenTwice dir "d" start = .ok (dir.join "d_2017-01-01_00-00-01.log", d') ∧
        d'.content? (dir.join "d_2017-01-01_00-00-01.log") = some (.text "") ∧
        Gained takenTwice d' ["w"] "d_2017-01-01_00-00-01.log" := by
  intro dir start
  have hstart : start.IsRepresentable := ⟨by decide, by decide, by decide⟩
  have hlast : start.seconds + maxRetries ≤ Moment.lastSecond := by decide
  have hsize : ∀ k ≤ maxRetries, (fileName "d" (start.later k)).utf8ByteSize ≤ maxName := by
    decide +kernel
  have hlegal : Admits takenTwice dir ["w"] "d" start :=
    { stat := rfl
      noSlash := by decide
      path := fun k hk => checkPath_candidate (by decide) (by decide) (by decide) (by decide)
        (hstart.later (by omega)) (hsize k hk)
      size := hsize
      isRepresentable := hstart
      last := hlast }
  have hname : fileName "d" (start.later 2) = "d_2017-01-01_00-00-01.log" := by decide
  have htaken : ∀ j < 2, isTaken takenTwice ["w"] "d" start j = true := by decide
  have hfree : isTaken takenTwice ["w"] "d" start 2 = false := by decide
  have hopen := (openFile_first_free hlegal).2.1 2 (by decide) htaken hfree
  rw [candidate, hname] at hopen
  exact ⟨hlegal, by decide, htaken, hfree, hopen⟩

end Session

end ClipboardWatchdog
