import ClipboardWatchdog.Proofs.Session.Retaining
import ClipboardWatchdog.Proofs.Session.Sparing

/-!
# Sessions of other bases

The stamp in a name holds one underscore, between the date and the time, whether it was written or
is only read. So the underscore before the stamp is the last but one of the name, and what stands
before it is the base: a name belongs to the sessions of one base at most, even where one base
starts with another or looks like a stamp. Retention for a base leaves the files of all others
(`Session.sweep_spares_other_bases`).
-/

namespace ClipboardWatchdog

/-! ### Where the stamp starts -/

variable {front back between as bs : List Char} {c : Char}

/-- A cut further left has the other cut behind it. -/
lemma eq_nil_of_cons_eq_append (h : c :: as = between ++ c :: bs)
    (hcount : as.count c = bs.count c) : between = [] := by
  cases between with
  | nil => rfl
  | cons b between =>
    have hrest : as = between ++ c :: bs := (List.cons.inj h).2
    rw [hrest, List.count_append, List.count_cons_self] at hcount
    omega

/-- Two texts that are cut in front of the same character, with as many of them behind the one cut
as behind the other, are cut at the same place. -/
lemma eq_of_append_cons_eq (h : front ++ c :: as = back ++ c :: bs)
    (hcount : as.count c = bs.count c) : front = back ∧ as = bs := by
  rcases List.append_eq_append_iff.mp h with ⟨between, rfl, hrest⟩ | ⟨between, rfl, hrest⟩
  · obtain rfl := eq_nil_of_cons_eq_append hrest hcount
    exact ⟨(List.append_nil _).symm, (List.cons.inj hrest).2⟩
  · obtain rfl := eq_nil_of_cons_eq_append hrest hcount.symm
    exact ⟨List.append_nil _, (List.cons.inj hrest).2.symm⟩

namespace Civil

lemma count_underscore_of_readFileText {cs : List Char} {c : Civil}
    (h : readFileText cs = some c) : cs.count '_' = 1 := by
  obtain ⟨s, hs, rfl, -⟩ := Stamp.readFileText_eq_some_iff.mp h
  exact hs.count_chars (by decide) (by decide) (by decide) (by decide)

lemma count_underscore_fileText (c : Civil) : c.fileText.count '_' = 1 := by
  rw [← Stamp.chars_written]
  exact (Stamp.isSpelled_written c).count_chars (by decide) (by decide) (by decide) (by decide)

end Civil

namespace Session

open Disk

variable {base other name : String} {d d' : Disk} {dir p : Path} {place : Place}

/-- The base of a session file and the stamp in its name are told by its name. -/
lemma base_and_stamp_of_startOf? {start : Civil} {c : Civil}
    (hname : name.toList = nameChars other.toList c) (h : startOf? base name = some start) :
    base = other ∧ Civil.readFileText c.fileText = some start := by
  obtain ⟨stamp, hchars, hread⟩ := toList_of_startOf? h
  rw [hname, nameChars] at hchars
  obtain ⟨hbase, hstamp⟩ := eq_of_append_cons_eq (List.append_cancel_right hchars)
    ((Civil.count_underscore_fileText c).trans (Civil.count_underscore_of_readFileText hread).symm)
  exact ⟨String.toList_inj.mp hbase.symm, hstamp ▸ hread⟩

/-- The name of a session file is not the name of one of another base. -/
lemma startOf?_nameAt_of_ne (hne : base ≠ other) (start : Civil) :
    startOf? base (nameAt other start) = none := by
  rw [Option.eq_none_iff_forall_ne_some]
  intro c h
  exact hne (base_and_stamp_of_startOf? (String.toList_ofList) h).1

/-! ### What is not removed -/

/-- Removing the file of a name changes nothing at places of other names. -/
lemma lookup_remove_join (hname : Path.IsPlain name) (hplace : place.getLast? ≠ some name)
    (h : d.remove (dir.join name) = .ok d') : d'.lookup place = d.lookup place := by
  unfold remove at h
  split at h
  · cases h
  · cases h
  · next gone content hstat =>
    obtain rfl := Except.ok.inj h
    obtain ⟨⟨here, last, hlocate, -, rfl⟩, -⟩ := stat_eq_file_iff.mp hstat
    have hlast := getLast?_segments_of_locate hlocate
    rw [Path.segments_join_of_isPlain hname, List.getLast?_concat] at hlast
    refine lookup_erase_of_ne ?_
    rintro rfl
    exact hplace (by rw [List.getLast?_concat, hlast])

lemma lookup_removeAll_of_ne {names : List String} (hnames : ∀ name ∈ names, Path.IsPlain name)
    (hplace : ∀ name ∈ names, place.getLast? ≠ some name) :
    (removeAll dir names d).2.lookup place = d.lookup place := by
  induction names generalizing d with
  | nil => rfl
  | cons name names ih =>
    have ih {d : Disk} := ih (d := d) (fun n hn => hnames n (List.mem_cons_of_mem name hn))
      (fun n hn => hplace n (List.mem_cons_of_mem name hn))
    unfold removeAll
    cases hremove : d.remove (dir.join name) with
    | error e => exact ih
    | ok d' =>
      exact ih.trans (lookup_remove_join (hnames name List.mem_cons_self)
        (hplace name List.mem_cons_self) hremove)

/-- Retention changes nothing at a place whose name is not one of a session of the base. -/
lemma lookup_sweep_of_startOf?_eq_none
    (hlisted : ∀ names, d.list dir = .ok names → ∀ n ∈ names, '/' ∉ n.toList)
    (hplace : ∀ name ∈ place.getLast?, startOf? base name = none) (keep : ℕ) :
    (sweep d dir base keep).2.lookup place = d.lookup place := by
  unfold sweep
  split
  · next names hlist =>
    refine lookup_removeAll_of_ne (fun n hn => ?_) (fun n hn hlast => ?_)
    · obtain ⟨hmem, start, hstart⟩ := exists_startOf?_of_mem_expired hn
      exact isPlain_of_listed (hlisted names hlist n hmem) hstart
    · obtain ⟨-, start, hstart⟩ := exists_startOf?_of_mem_expired hn
      cases (hplace n hlast).symm.trans hstart
  · rfl

/-- A name that was made for another base has no start for this one, and retention for this base
leaves what stands under the name in any directory. -/
theorem sweep_spares_other_bases (hne : base ≠ other) (start : Civil)
    (hlisted : ∀ names, d.list dir = .ok names → ∀ n ∈ names, '/' ∉ n.toList) (keep : ℕ) :
    startOf? base (nameAt other start) = none ∧
      (∀ there : Place, (sweep d dir base keep).2.lookup (there ++ [nameAt other start]) =
        d.lookup (there ++ [nameAt other start])) ∧
      ∀ (file : Path) (content : Content),
        file.segments.getLast? = some (nameAt other start) →
        d.content? file = some content →
        (sweep d dir base keep).2.content? file = some content := by
  have hnone := startOf?_nameAt_of_ne hne start
  have hlookup (there : Place) :
      (sweep d dir base keep).2.lookup (there ++ [nameAt other start]) =
        d.lookup (there ++ [nameAt other start]) := by
    refine lookup_sweep_of_startOf?_eq_none hlisted (fun name hname => ?_) keep
    rw [List.getLast?_concat, Option.mem_some_iff] at hname
    rwa [← hname]
  refine ⟨hnone, hlookup, fun file content hfile hcontent => ?_⟩
  refine content?_of_lookup (keepsDirectories_sweep d dir base keep) (fun place hleads => ?_)
    hcontent
  obtain ⟨here, name, hlocate, -, rfl⟩ := hleads
  rw [getLast?_segments_of_locate hlocate] at hfile
  rw [Option.some.inj hfile]
  exact hlookup here

/-- A session of one base, and a session of the same second of a base that starts with the first and
goes on as a stamp does. -/
def twoBases : Disk where
  entries :=
    [(["w"], .directory), (["w", "d_2026-03-09_09-05-07.log"], .file (.text "")),
      (["w", "d_2026-03-09_2026-03-09_09-05-07.log"], .file (.text ""))]

theorem sweep_spares_other_bases_twoBases :
    let dir := Path.ofString "/w"
    let name := nameAt "d_2026-03-09" ⟨2026, 3, 9, 9, 5, 7, 0⟩
    "d" ≠ "d_2026-03-09" ∧
      (∀ names, twoBases.list dir = .ok names → ∀ n ∈ names, '/' ∉ n.toList) ∧
      startOf? "d" name = none ∧
      (∀ there : Place, (sweep twoBases dir "d" 0).2.lookup (there ++ [name]) =
        twoBases.lookup (there ++ [name])) ∧
      ∀ (file : Path) (content : Content), file.segments.getLast? = some name →
        twoBases.content? file = some content →
        (sweep twoBases dir "d" 0).2.content? file = some content := by
  have hlisted : ∀ names, twoBases.list (Path.ofString "/w") = .ok names →
      ∀ n ∈ names, '/' ∉ n.toList := by
    intro names hnames
    obtain rfl : ["d_2026-03-09_09-05-07.log", "d_2026-03-09_2026-03-09_09-05-07.log"] = names :=
      Except.ok.inj hnames
    decide
  have hne : "d" ≠ "d_2026-03-09" := by decide
  exact ⟨hne, hlisted, sweep_spares_other_bases hne ⟨2026, 3, 9, 9, 5, 7, 0⟩ hlisted 0⟩

end Session

end ClipboardWatchdog
