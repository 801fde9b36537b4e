import ClipboardWatchdog.Proofs.Session.Sweeping
import ClipboardWatchdog.Proofs.Storage.Frames
import ClipboardWatchdog.Proofs.Storage.Listing

/-!
# What stays of a directory

Retention removes the session files of a base that are outranked and leaves everything else: other
names, directories whatever their names are, and other places (`Session.sweep_keeps_newest`). The
files that go do not change the order of the rest, and so nothing is left to be removed by doing it
once more.
-/

namespace ClipboardWatchdog.Session

open ClipboardWatchdog.Path Disk

variable {d : Disk} {dir : Path} {here : Place} {base : String} {keep : ℕ} {names : List String}

/-! ### Removing files -/

lemma removeAll_of_no_file (h : ∀ name ∈ names, d.isFile (dir.join name) = false) :
    removeAll dir names d = (0, d) := by
  induction names with
  | nil => rfl
  | cons name rest ih =>
    obtain ⟨e, he⟩ := remove_eq_error (h name List.mem_cons_self)
    unfold removeAll
    rw [he]
    exact ih fun n hn => h n (List.mem_cons_of_mem name hn)

/-- Those of the names that lead to files. -/
def filesAmong (d : Disk) (dir : Path) (names : List String) : List String :=
  names.filter fun name => d.isFile (dir.join name)

/-- Of names that are all different, those of files go, and nothing else. -/
lemma removeAll_eq (hplain : ∀ name ∈ names, IsPlain name) (hnodup : names.Nodup)
    (hwalk : d.walk [] dir.segments = .ok here) :
    removeAll dir names d =
      ((filesAmong d dir names).length,
        d.without ((filesAmong d dir names).map (here ++ [·]))) := by
  induction names generalizing d with
  | nil => simp [removeAll, filesAmong]
  | cons name rest ih =>
    have hname : IsPlain name := hplain name List.mem_cons_self
    have hrest : ∀ n ∈ rest, IsPlain n := fun n hn => hplain n (List.mem_cons_of_mem _ hn)
    obtain ⟨hnew, hnodup⟩ := List.nodup_cons.mp hnodup
    unfold removeAll
    cases hfile : d.isFile (dir.join name) with
    | true =>
      obtain ⟨-, -, content, hlookup⟩ := (isFile_join_iff hname hwalk).mp hfile
      have hfiles : filesAmong d dir (name :: rest) = name :: filesAmong d dir rest := by
        simp [filesAmong, hfile]
      -- the names that come later are files as they were before
      have hlater : filesAmong (d.erase (here ++ [name])) dir rest = filesAmong d dir rest := by
        refine List.filter_congr fun n hn => ?_
        rw [Bool.eq_iff_iff, isFile_erase_join_iff (hrest n hn) hname hwalk hfile]
        exact and_iff_left fun he => hnew (he ▸ hn)
      rw [remove_join hname hwalk hfile, hfiles, List.map_cons, List.length_cons, ← without_erase]
      dsimp only
      rw [ih hrest hnodup (walk_erase hlookup hwalk), hlater]
    | false =>
      have hfiles : filesAmong d dir (name :: rest) = filesAmong d dir rest := by
        simp [filesAmong, hfile]
      obtain ⟨e, he⟩ := remove_eq_error hfile
      rw [he, hfiles]
      exact ih hrest hnodup hwalk

/-! ### Sessions that are kept -/

/-- The sessions among some names that are kept when so many are. -/
def newest (base : String) (keep : ℕ) (names : List String) : List (Civil × String) :=
  (newestFirst (sessionsAmong base names)).take keep

/-- All other sessions. -/
def outranked (base : String) (keep : ℕ) (names : List String) : List (Civil × String) :=
  (newestFirst (sessionsAmong base names)).drop keep

lemma newest_append_outranked_perm (base : String) (keep : ℕ) (names : List String) :
    (newest base keep names ++ outranked base keep names).Perm (sessionsAmong base names) := by
  rw [newest, outranked, List.take_append_drop]
  exact List.mergeSort_perm _ _

lemma length_newest (base : String) (keep : ℕ) (names : List String) :
    (newest base keep names).length = min keep (sessionsAmong base names).length := by
  rw [newest, List.length_take, newestFirst, List.length_mergeSort]

lemma instant_le_of_mem_outranked {s s' : Civil × String} (hs : s ∈ newest base keep names)
    (hs' : s' ∈ outranked base keep names) : s'.1.instant ≤ s.1.instant := by
  have hordered : (newestFirst (sessionsAmong base names)).Pairwise
      fun a b => notOlder a b = true :=
    List.pairwise_mergeSort notOlder_trans notOlder_total _
  rw [← List.take_append_drop keep (newestFirst _)] at hordered
  exact of_decide_eq_true ((List.pairwise_append.mp hordered).2.2 s hs s' hs')

/-- The names of the sessions that are kept and those of all others. -/
lemma names_perm (base : String) (keep : ℕ) (names : List String) :
    ((newest base keep names).map (·.2) ++ expired base keep names).Perm
      (names.filter fun name => (startOf? base name).isSome) := by
  rw [← map_sessionsAmong, expired, ← outranked, ← List.map_append]
  exact (newest_append_outranked_perm base keep names).map _

/-- A name is expired exactly if it is one of a session that is not kept. -/
lemma mem_expired_iff {name : String} (hnodup : names.Nodup) :
    name ∈ expired base keep names ↔
      name ∈ names ∧ (startOf? base name).isSome = true ∧
        name ∉ (newest base keep names).map (·.2) := by
  have hperm := names_perm base keep names
  have hdisjoint := List.nodup_append'.mp (hperm.nodup_iff.mpr (hnodup.filter _))
  have hmem := hperm.mem_iff (a := name)
  rw [List.mem_append, List.mem_filter] at hmem
  constructor
  · intro hexpired
    obtain ⟨hname, hstart⟩ := hmem.mp (.inr hexpired)
    exact ⟨hname, hstart, fun hkept => hdisjoint.2.2 hkept hexpired⟩
  · rintro ⟨hname, hstart, hkept⟩
    exact (hmem.mpr ⟨hname, hstart⟩).resolve_left hkept

lemma nodup_expired (hnodup : names.Nodup) : (expired base keep names).Nodup := by
  have hnames := (names_perm base keep names).nodup_iff.mpr (hnodup.filter _)
  exact (List.nodup_append'.mp hnames).2.1

/-- Without some of the sessions that are not kept, no others are expired. -/
lemma mem_expired_of_filter {p : String → Bool} {name : String}
    (hkept : ∀ s ∈ newest base keep names, p s.2 = true)
    (h : name ∈ expired base keep (names.filter p)) : name ∈ expired base keep names := by
  unfold expired at h ⊢
  unfold newest at hkept
  rw [sessionsAmong_filter, ← filter_newestFirst] at h
  generalize newestFirst (sessionsAmong base names) = ranked at h hkept ⊢
  obtain ⟨s, hs, rfl⟩ := List.mem_map.mp h
  have htake : (ranked.take keep).filter (fun s => p s.2) = ranked.take keep :=
    List.filter_eq_self.mpr hkept
  rw [← List.take_append_drop keep ranked, List.filter_append, htake, List.drop_append,
    List.drop_eq_nil_of_le (List.length_take_le keep ranked), List.nil_append] at hs
  exact List.mem_map_of_mem (List.mem_of_mem_filter (List.mem_of_mem_drop hs))

/-! ### A directory and its sessions -/

/-- What stays where these sessions are kept: names that are not those of sessions, the sessions
that are kept, and directories, which are not removed. -/
def stays (base : String) (kept : List (Civil × String)) (e : String × Entry) : Bool :=
  (startOf? base e.1).isNone || (kept.map (·.2)).contains e.1 || e.2.isDirectory

/-- The name of a session stands for one entry where it is listed, whatever the base is. -/
lemma isPlain_of_listed {name : String} {start : Civil} (hslash : '/' ∉ name.toList)
    (hstart : startOf? base name = some start) : IsPlain name := by
  refine isPlain_of_startOf? (fun hbase => hslash ?_) hstart
  obtain ⟨stamp, hname, -⟩ := toList_of_startOf? hstart
  rw [hname]
  simp [hbase]

/-- Where files can be removed, the name of a session leads to a file exactly if it is not the name
of a directory. -/
lemma isFile_join_eq {e : String × Entry} (hnames : d.KeepsNames here)
    (hwalk : d.walk [] dir.segments = .ok here) (he : e ∈ d.children here)
    (hstart : (startOf? base e.1).isSome = true)
    (hremove : e.2.isDirectory = false → (d.remove (dir.join e.1)).isOk = true) :
    d.isFile (dir.join e.1) = !e.2.isDirectory := by
  obtain ⟨name, entry⟩ := e
  obtain ⟨start, hstart⟩ := Option.isSome_iff_exists.mp hstart
  have hplain := isPlain_of_listed (hnames.noSlash _ he) hstart
  cases entry with
  | directory =>
    refine Bool.eq_false_iff.mpr fun hfile => ?_
    obtain ⟨-, -, content, hlookup⟩ := (isFile_join_iff hplain hwalk).mp hfile
    cases (lookup_of_mem_children hnames he).symm.trans hlookup
  | file content =>
    have hok := hremove rfl
    cases hr : d.remove (dir.join name) with
    | error e =>
      rw [hr] at hok
      cases hok
    | ok d' => exact isFile_of_remove_eq_ok hr

section Sweeping

variable (hdir : d.stat dir = .ok (here, .directory)) (hnames : d.KeepsNames here)

include hdir in
lemma sweep_of_stat (base : String) (keep : ℕ) :
    sweep d dir base keep = removeAll dir (expired base keep ((d.children here).map (·.1))) d := by
  unfold sweep list
  rw [hdir]

include hnames in
lemma isPlain_of_mem_expired_children {name : String}
    (h : name ∈ expired base keep ((d.children here).map (·.1))) : IsPlain name := by
  obtain ⟨hlisted, start, hstart⟩ := exists_startOf?_of_mem_expired h
  obtain ⟨e, he, rfl⟩ := List.mem_map.mp hlisted
  exact isPlain_of_listed (hnames.noSlash e he) hstart

include hdir hnames

/-- The expired sessions go that are files. -/
lemma sweep_eq (base : String) (keep : ℕ) :
    let gone := filesAmong d dir (expired base keep ((d.children here).map (·.1)))
    sweep d dir base keep = (gone.length, d.without (gone.map (here ++ [·]))) := by
  rw [sweep_of_stat hdir]
  exact removeAll_eq (fun _ => isPlain_of_mem_expired_children hnames)
    (nodup_expired hnames.nodup) (stat_eq_directory_iff.mp hdir).2

/-- Nothing is left to be removed when the same number of sessions is kept once more. -/
lemma sweep_sweep (base : String) (keep : ℕ) :
    sweep (sweep d dir base keep).2 dir base keep = (0, (sweep d dir base keep).2) := by
  obtain ⟨hpath, hwalk⟩ := stat_eq_directory_iff.mp hdir
  have hdir' : (sweep d dir base keep).2.stat dir = .ok (here, .directory) :=
    stat_eq_directory_iff.mpr ⟨hpath, walk_mono (keepsDirectories_sweep d dir base keep) hwalk⟩
  have hplain (n : String) (hn : n ∈ expired base keep ((d.children here).map (·.1))) : IsPlain n :=
    isPlain_of_mem_expired_children hnames hn
  rw [sweep_of_stat hdir']
  refine removeAll_of_no_file fun name hname => ?_
  -- what is expired now has been so before, and if it was a file, it is gone
  have hexpired : name ∈ expired base keep ((d.children here).map (·.1)) := by
    rw [sweep_eq hdir hnames, names_without] at hname
    refine mem_expired_of_filter (fun s hs => ?_) hname
    rw [decide_eq_true_eq]
    intro hgone
    obtain ⟨-, -, hkept⟩ := (mem_expired_iff hnames.nodup).mp (List.mem_of_mem_filter hgone)
    exact hkept (List.mem_map_of_mem hs)
  rw [sweep_of_stat hdir, Bool.eq_false_iff, Ne,
    isFile_removeAll_iff hplain (hplain name hexpired) hwalk]
  exact fun h => h.2 hexpired

variable (hremove : ∀ e ∈ d.children here, (startOf? base e.1).isSome = true →
  e.2.isDirectory = false → (d.remove (dir.join e.1)).isOk = true)

include hremove

/-- Where files can be removed, those that go are the entries that do not stay. -/
lemma mem_filesAmong_iff (keep : ℕ) {e : String × Entry} (he : e ∈ d.children here) :
    e.1 ∈ filesAmong d dir (expired base keep ((d.children here).map (·.1))) ↔
      stays base (newest base keep ((d.children here).map (·.1))) e = false := by
  have hlisted : e.1 ∈ (d.children here).map (·.1) := List.mem_map_of_mem he
  unfold filesAmong stays
  rw [List.mem_filter, mem_expired_iff hnames.nodup]
  cases hstart : startOf? base e.1 with
  | none => simp
  | some start =>
    have hsome : (startOf? base e.1).isSome = true := by rw [hstart]; rfl
    rw [isFile_join_eq hnames (stat_eq_directory_iff.mp hdir).2 he hsome (hremove e he hsome)]
    simp only [hlisted, Option.isSome_some, Option.isNone_some, true_and, Bool.false_or,
      Bool.not_eq_eq_eq_not, Bool.not_true, Bool.or_eq_false_iff, List.contains_eq_mem,
      decide_eq_false_iff_not]

/-- They are counted once each. -/
lemma filesAmong_perm (keep : ℕ) :
    (filesAmong d dir (expired base keep ((d.children here).map (·.1)))).Perm
      (((d.children here).filter fun e =>
        !stays base (newest base keep ((d.children here).map (·.1))) e).map (·.1)) := by
  have hsub := List.filter_sublist
    (p := fun e => !stays base (newest base keep ((d.children here).map (·.1))) e)
    (l := d.children here)
  refine (List.perm_ext_iff_of_nodup ((nodup_expired hnames.nodup).filter _)
    (hnames.nodup.sublist (hsub.map _))).mpr fun name => ?_
  have hiff (e : String × Entry) (he : e ∈ d.children here) :=
    mem_filesAmong_iff hdir hnames hremove keep he
  constructor
  · intro hgone
    obtain ⟨hlisted, -⟩ := exists_startOf?_of_mem_expired (List.mem_of_mem_filter hgone)
    obtain ⟨e, he, rfl⟩ := List.mem_map.mp hlisted
    have hnot := (hiff e he).mp hgone
    exact List.mem_map_of_mem (List.mem_filter.mpr ⟨he, by rw [hnot]; rfl⟩)
  · intro hmem
    obtain ⟨e, he, rfl⟩ := List.mem_map.mp hmem
    obtain ⟨he, hnot⟩ := List.mem_filter.mp he
    exact (hiff e he).mpr (Bool.not_eq_true' _ ▸ hnot)

end Sweeping

/-- Retention removes as many files as it counts: those of the sessions that are outranked. What is
listed besides stays in its order, and there is nothing left to be removed. -/
theorem sweep_keeps_newest (keep : ℕ) (hdir : d.stat dir = .ok (here, .directory))
    (hnames : d.KeepsNames here)
    (hremove : ∀ e ∈ d.children here, (startOf? base e.1).isSome = true →
      e.2.isDirectory = false → (d.remove (dir.join e.1)).isOk = true) :
    let sessions := sessionsAmong base ((d.children here).map (·.1))
    let swept := (sweep d dir base keep).2
    ∃ kept others, (kept ++ others).Perm sessions ∧ kept.length = min keep sessions.length ∧
      (∀ s ∈ kept, ∀ s' ∈ others, s'.1.instant ≤ s.1.instant) ∧
      swept.children here = (d.children here).filter (stays base kept) ∧
      (∀ there ≠ here, swept.children there = d.children there) ∧
      (sweep d dir base keep).1 = (d.children here).countP (fun e => !stays base kept e) ∧
      sweep swept dir base keep = (0, swept) := by
  intro sessions swept
  have hsweep := sweep_eq hdir hnames base keep
  refine ⟨newest base keep ((d.children here).map (·.1)),
    outranked base keep ((d.children here).map (·.1)), newest_append_outranked_perm base keep _,
    length_newest base keep _, fun s hs s' hs' => instant_le_of_mem_outranked hs hs', ?_, ?_, ?_,
    sweep_sweep hdir hnames base keep⟩
  · change (sweep d dir base keep).2.children here = _
    rw [hsweep, children_without]
    refine List.filter_congr fun e he => ?_
    rw [Bool.eq_iff_iff, decide_eq_true_eq, mem_filesAmong_iff hdir hnames hremove keep he,
      Bool.not_eq_false]
  · intro there hthere
    change (sweep d dir base keep).2.children there = _
    rw [hsweep, children_without_of_ne hthere]
  · rw [hsweep, List.countP_eq_length_filter]
    exact (filesAmong_perm hdir hnames hremove keep).length_eq.trans (List.length_map _)

/-- Three names for sessions of one second, one of them the name of a directory, a session of the
year after, and a name that is not one of a session. -/
def crowded : Disk where
  entries :=
    [(["w"], .directory), (["w", "d_2026-03-01_10-00-00.log"], .file (.text "")),
      (["w", "notes.txt"], .file (.text "")), (["w", "d_2026-03-01_10-00-0.log"], .file (.text "")),
      (["w", "d_2026-3-01_10-00-00.log"], .directory),
      (["w", "d_2027-03-01_10-00-00.log"], .file (.text ""))]

theorem sweep_keeps_newest_crowded :
    let dir := Path.ofString "/w"
    let sessions := sessionsAmong "d" ((crowded.children ["w"]).map (·.1))
    let swept := (sweep crowded dir "d" 2).2
    crowded.stat dir = .ok (["w"], .directory) ∧ crowded.KeepsNames ["w"] ∧
      (∀ e ∈ crowded.children ["w"], (startOf? "d" e.1).isSome = true →
        e.2.isDirectory = false → (crowded.remove (dir.join e.1)).isOk = true) ∧
      ∃ kept others, (kept ++ others).Perm sessions ∧ kept.length = min 2 sessions.length ∧
        (∀ s ∈ kept, ∀ s' ∈ others, s'.1.instant ≤ s.1.instant) ∧
        swept.children ["w"] = (crowded.children ["w"]).filter (stays "d" kept) ∧
        (∀ there ≠ ["w"], swept.children there = crowded.children there) ∧
        (sweep crowded dir "d" 2).1 =
          (crowded.children ["w"]).countP (fun e => !stays "d" kept e) ∧
        sweep swept dir "d" 2 = (0, swept) := by
  have hdir : crowded.stat (Path.ofString "/w") = .ok (["w"], .directory) := by rfl
  have hnames : crowded.KeepsNames ["w"] := ⟨by decide, by decide⟩
  have hremove : ∀ e ∈ crowded.children ["w"], (startOf? "d" e.1).isSome = true →
      e.2.isDirectory = false → (crowded.remove ((Path.ofString "/w").join e.1)).isOk = true := by
    decide
  exact ⟨hdir, hnames, hremove, sweep_keeps_newest 2 hdir hnames hremove⟩

end ClipboardWatchdog.Session
