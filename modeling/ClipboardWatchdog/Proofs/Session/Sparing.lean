import ClipboardWatchdog.Proofs.Session.Opening

/-!
# Files that are no session files

The files of sessions end in `.log`: those that are made and written, and those that are removed for
their age. A file with another ending stays as it is, whatever the directory and the base of the
sessions are, and even where a base has slashes in it.
-/

namespace ClipboardWatchdog

/-! ### Endings -/

namespace Path

variable {p : Path} {name : String} {back : List Char}

/-- The last segment ends in these characters. -/
def EndsIn (p : Path) (back : List Char) : Prop :=
  ∃ last ∈ p.segments.getLast?, back <:+ last.toList

/-- Cutting a text at its slashes leaves its end in one piece, if no slash is in it. -/
lemma exists_cut_append (hback : '/' ∉ back) (cs : List Char) :
    ∃ front last, cut (cs ++ back) = front ++ [last ++ back] := by
  induction cs with
  | nil => exact ⟨[], [], cut_of_not_mem hback⟩
  | cons c cs ih =>
    obtain ⟨front, last, hcut⟩ := ih
    rw [List.cons_append, cut]
    split
    · exact ⟨[] :: front, last, congrArg _ hcut⟩
    · rw [hcut]
      cases front with
      | nil => exact ⟨[], c :: last, rfl⟩
      | cons s front => exact ⟨(c :: s) :: front, last, rfl⟩

/-- A path ends as the name that was joined to it, be it the name of one entry or not. -/
lemma endsIn_join (hback : '/' ∉ back) (p : Path) (h : back <:+ name.toList) :
    (p.join name).EndsIn back := by
  obtain ⟨cs, hname⟩ := h
  obtain ⟨front, last, hcut⟩ := exists_cut_append hback cs
  have hlast : back <:+ (String.ofList (last ++ back)).toList := by simp
  unfold join
  split
  · refine ⟨_, ?_, hlast⟩
    simp [ofString, ← hname, hcut]
  · refine ⟨_, ?_, hlast⟩
    simp [← hname, hcut]

/-- A plain name that does not end so makes a path that does not. -/
lemma not_endsIn_join (hname : IsPlain name) (p : Path) (h : ¬back <:+ name.toList) :
    ¬(p.join name).EndsIn back := by
  rintro ⟨last, hlast, hback⟩
  rw [segments_join_of_isPlain hname, List.getLast?_concat, Option.mem_some_iff] at hlast
  exact h (hlast ▸ hback)

end Path

namespace Disk

variable {d d' : Disk} {p file : Path} {here place place' : Place} {name : String}
  {back : List Char} {content : Content}

lemma getLast?_segments_of_locate (h : d.locate p = .ok (.named here name false)) :
    p.segments.getLast? = some name := by
  unfold locate at h
  split at h
  · cases h
  · dsimp only at h
    split at h
    · cases h
    · next last front hrest =>
      split at h
      · cases h
      · split at h
        · cases h
        · split at h
          · cases h
          · -- the path does not end in slashes, so its last segment is the name
            obtain ⟨-, rfl, hslashes⟩ := End.named.inj (Except.ok.inj h)
            rw [Bool.not_eq_false', List.isEmpty_iff] at hslashes
            rw [hslashes, List.length_nil, List.drop_zero] at hrest
            rw [List.getLast?_eq_head?_reverse, hrest, List.head?_cons]

/-- Paths of different endings lead to different places. -/
lemma Leads.ne_of_endsIn (h : d.Leads p place) (hp : p.EndsIn back) (h' : d.Leads file place')
    (hfile : ¬file.EndsIn back) : place' ≠ place := by
  obtain ⟨here, name, hlocate, -, rfl⟩ := h
  obtain ⟨here', name', hlocate', -, rfl⟩ := h'
  rintro heq
  obtain ⟨-, hname⟩ := List.append_inj' heq rfl
  obtain rfl := List.singleton_inj.mp hname
  obtain ⟨last, hlast, hback⟩ := hp
  rw [getLast?_segments_of_locate hlocate] at hlast
  exact hfile ⟨last, by rwa [getLast?_segments_of_locate hlocate'], hback⟩

/-- What is written in a file stays if its place and the directories stay. -/
lemma content?_of_lookup (hdirectories : d.KeepsDirectories d')
    (hplace : ∀ place, d.Leads file place → d'.lookup place = d.lookup place)
    (h : d.content? file = some content) : d'.content? file = some content := by
  obtain ⟨place, hstat⟩ := Disk.content?_eq_some_iff.mp h
  obtain ⟨hleads, hlookup⟩ := stat_eq_file_iff.mp hstat
  exact (hleads.mono hdirectories).content?_eq_some_iff.mpr ((hplace place hleads).trans hlookup)

lemma content?_append_of_endsIn (hp : p.EndsIn back) (hfile : ¬file.EndsIn back) (text : String)
    (h : d.content? file = some content) :
    (d.append p text).2.content? file = some content := by
  refine content?_of_lookup (keepsDirectories_append d p text) (fun place hleads => ?_) h
  exact lookup_append_of_not_leads (fun hleads' => hleads'.ne_of_endsIn hp hleads hfile rfl) text

lemma content?_remove_of_endsIn (hp : p.EndsIn back) (hfile : ¬file.EndsIn back)
    (hremove : d.remove p = .ok d') (h : d.content? file = some content) :
    d'.content? file = some content := by
  unfold remove at hremove
  split at hremove
  · cases hremove
  · cases hremove
  · next gone old hstat =>
    obtain rfl := Except.ok.inj hremove
    obtain ⟨hgone, hold⟩ := stat_eq_file_iff.mp hstat
    refine content?_of_lookup (fun place hplace => ?_) (fun place hleads => ?_) h
    · rw [lookup_erase_of_ne]
      · exact hplace
      · rintro rfl
        cases hold.symm.trans hplace
    · exact lookup_erase_of_ne (hgone.ne_of_endsIn hp hleads hfile)

end Disk

/-! ### The files of sessions -/

namespace Session

open Disk

variable {d d' : Disk} {clock : Clock} {origin : Origin} {dir file : Path} {base : String}
  {role : Role} {helper : String} {session : Session} {content : Content}

lemma endsIn_candidate (dir : Path) (base : String) (start : Moment) (k : ℕ) :
    (candidate dir base start k).EndsIn ending := by
  refine Path.endsIn_join (by decide) dir ?_
  rw [fileName, nameAt, String.toList_ofList, nameChars]
  exact List.suffix_append _ _

/-- Starting a session spares all files with another ending, and the new file has this one. -/
lemma content?_create (hfile : ¬file.EndsIn ending)
    (h : create d clock origin dir base role helper = (.ok session, d')) :
    session.path.EndsIn ending ∧
      ∀ content, d.content? file = some content → d'.content? file = some content := by
  obtain ⟨now, path, made, -, hopen, hstart⟩ := exists_start_of_create_eq_ok h
  obtain ⟨rfl, rfl⟩ := Prod.mk.inj hstart
  obtain ⟨k, -, -, hpath, hcreate, -⟩ := openFrom_eq_ok hopen
  have hpath : path.EndsIn ending := hpath ▸ endsIn_candidate dir base now k
  obtain ⟨place, -, hnone, rfl⟩ := createNew_eq_ok hcreate
  refine ⟨hpath, fun content hcontent => content?_append_of_endsIn hpath hfile _ ?_⟩
  exact (grown_insert hnone _).content? ((grown_of_ensureDirectory d dir).content? hcontent)

lemma suffix_of_mem_expired {names : List String} {keep : ℕ} {name : String}
    (h : name ∈ expired base keep names) : ending <:+ name.toList := by
  obtain ⟨-, start, hstart⟩ := exists_startOf?_of_mem_expired h
  obtain ⟨stamp, hname, -⟩ := toList_of_startOf? hstart
  rw [hname]
  exact List.suffix_append _ _

lemma content?_removeAll (hfile : ¬file.EndsIn ending) {names : List String}
    (hnames : ∀ name ∈ names, ending <:+ name.toList) (h : d.content? file = some content) :
    (removeAll dir names d).2.content? file = some content := by
  induction names generalizing d with
  | nil => exact h
  | cons name names ih =>
    have hname := Path.endsIn_join (by decide) dir (hnames name List.mem_cons_self)
    have ih {d : Disk} := ih (d := d) fun n hn => hnames n (List.mem_cons_of_mem name hn)
    unfold removeAll
    cases hremove : d.remove (dir.join name) with
    | error e => exact ih h
    | ok d' => exact ih (content?_remove_of_endsIn hname hfile hremove h)

/-- Removing old session files spares all files with another ending. -/
lemma content?_sweep (hfile : ¬file.EndsIn ending) (keep : ℕ)
    (h : d.content? file = some content) :
    (sweep d dir base keep).2.content? file = some content := by
  unfold sweep
  split
  · exact content?_removeAll hfile (fun name => suffix_of_mem_expired) h
  · exact h

end Session

end ClipboardWatchdog
