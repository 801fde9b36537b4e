import ClipboardWatchdog.Proofs.Session.Names
import ClipboardWatchdog.Proofs.Session.Ranking
import ClipboardWatchdog.Proofs.Storage.Entries
import ClipboardWatchdog.Session.Recorder

/-!
# The new file among the old ones

A session starts by making its file, and old files are removed right after. `isFile_sweep_iff` says
when the new file is still there: if fewer files than are kept have a start that is not older than
its own. A name that is taken makes way for a later one, and a later name may become free while it
is still in use as a start, so that the file made last need not be the newest.
-/

namespace ClipboardWatchdog.Session

open ClipboardWatchdog.Path Disk

variable {d d' : Disk} {dir : Path} {here : Place} {base name : String}

/-! ### Removing files -/

lemma isFile_removeAll_iff {names : List String} (hnames : ∀ m ∈ names, IsPlain m)
    (hname : IsPlain name) (hwalk : d.walk [] dir.segments = .ok here) :
    (removeAll dir names d).2.isFile (dir.join name) = true ↔
      d.isFile (dir.join name) = true ∧ name ∉ names := by
  induction names generalizing d with
  | nil => simp [removeAll]
  | cons m rest ih =>
    have hm : IsPlain m := hnames m List.mem_cons_self
    have hrest : ∀ n ∈ rest, IsPlain n := fun n hn => hnames n (List.mem_cons_of_mem _ hn)
    unfold removeAll
    cases hfile : d.isFile (dir.join m) with
    | true =>
      obtain ⟨-, -, content, hlookup⟩ := (isFile_join_iff hm hwalk).mp hfile
      rw [remove_join hm hwalk hfile]
      dsimp only
      rw [ih hrest (walk_erase hlookup hwalk), isFile_erase_join_iff hname hm hwalk hfile,
        List.mem_cons, not_or, and_assoc]
    | false =>
      obtain ⟨e, he⟩ := remove_eq_error hfile
      rw [he]
      dsimp only
      rw [ih hrest hwalk, List.mem_cons, not_or]
      constructor
      · rintro ⟨hstands, hmem⟩
        refine ⟨hstands, ?_, hmem⟩
        rintro rfl
        rw [hfile] at hstands
        cases hstands
      · rintro ⟨hstands, -, hmem⟩
        exact ⟨hstands, hmem⟩

/-- Only names of session files go, and these stand for one entry each. -/
lemma isPlain_of_mem_expired (hbase : '/' ∉ base.toList) {names : List String} {keep : ℕ}
    (h : name ∈ expired base keep names) : IsPlain name := by
  obtain ⟨-, start, hstart⟩ := exists_startOf?_of_mem_expired h
  exact isPlain_of_startOf? hbase hstart

/-! ### Making the file -/

/-- The file that is made is the one of the start or of a later second of the calendar. -/
lemma openFrom_eq_ok {start : Moment} {retries k : ℕ} {path : Path}
    (h : openFrom d dir base start retries k = .ok (path, d')) :
    ∃ j ≥ k, j ≤ k + retries ∧ path = candidate dir base start j ∧ d.createNew path = .ok d' ∧
      (k < j → (start.later j).isBeyondCalendar = false) := by
  induction retries generalizing k with
  | zero =>
    unfold openFrom at h
    split at h
    · next d₁ hcreate =>
      obtain ⟨rfl, rfl⟩ := Prod.mk.inj (Except.ok.inj h)
      exact ⟨k, Nat.le_refl k, Nat.le_refl k, rfl, hcreate, fun hlt => absurd hlt (Nat.lt_irrefl k)⟩
    · cases h
  | succ retries ih =>
    unfold openFrom at h
    split at h
    · next d₁ hcreate =>
      obtain ⟨rfl, rfl⟩ := Prod.mk.inj (Except.ok.inj h)
      exact ⟨k, Nat.le_refl k, by omega, rfl, hcreate, fun hlt => absurd hlt (Nat.lt_irrefl k)⟩
    · split at h
      · cases h
      · next hcalendar =>
        obtain ⟨j, hj, hbound, hpath, hcreate, hlater⟩ := ih h
        refine ⟨j, by omega, by omega, hpath, hcreate, fun _ => ?_⟩
        by_cases hnext : k + 1 < j
        · exact hlater hnext
        · obtain rfl : j = k + 1 := by omega
          simpa using hcalendar
    · cases h

/-- The moments that the names of session files are made of have a civil time that exists. -/
lemma isValid_ofMoment_later {clock : Clock} {now : Moment} {k : ℕ} (hread : clock.read = .ok now)
    (hcalendar : 0 < k → (now.later k).isBeyondCalendar = false) :
    (now.later k).isLeap = false ∧ (Civil.ofMoment (now.later k)).isValid = true := by
  obtain ⟨hleap, hfirst, hlast, -⟩ := Clock.read_eq_ok_iff.mp hread
  have hnanos : (now.later k).nanos = now.nanos := by
    unfold Moment.later
    rw [hleap]
    split <;> rfl
  have hleap' : (now.later k).isLeap = false := by
    unfold Moment.isLeap at hleap ⊢
    rwa [hnanos]
  refine ⟨hleap', Civil.isValid_ofMoment ?_ ?_ (.inl ?_)⟩
  · have hstart : (Date.mk Civil.firstYear 1 1).toDays * 86400 ≤ 0 := by decide
    rw [Moment.seconds_later]
    omega
  · rcases Nat.eq_zero_or_pos k with rfl | hk
    · simpa using hlast
    · exact Moment.isBeyondCalendar_eq_false_iff.mp (hcalendar hk)
  · simpa [Moment.isLeap] using hleap'

section Starting

variable {clock : Clock} {origin : Origin} {role : Role} {helper : String} {session : Session}

/-- Where a session was started, its file was made in the directory, and then the header was
written. -/
lemma exists_start_of_create_eq_ok
    (h : create d clock origin dir base role helper = (.ok session, d')) :
    ∃ now path made, clock.read = .ok now ∧
      openFile (d.ensureDirectory dir).2 dir base now = .ok (path, made) ∧
        start made now origin path role helper = (session, d') := by
  unfold create at h
  cases hensure : d.ensureDirectory dir with
  | mk result d₁ =>
    rw [hensure] at h
    cases result with
    | error e => cases (Prod.mk.inj h).1
    | ok _ =>
      dsimp only at h
      cases hread : clock.read with
      | error fault =>
        rw [hread] at h
        cases (Prod.mk.inj h).1
      | ok now =>
        rw [hread] at h
        dsimp only at h
        cases hopen : openFile d₁ dir base now with
        | error e =>
          rw [hopen] at h
          cases (Prod.mk.inj h).1
        | ok opened =>
          obtain ⟨path, made⟩ := opened
          rw [hopen] at h
          obtain ⟨hsession, rfl⟩ := Prod.mk.inj h
          obtain rfl := Except.ok.inj hsession
          exact ⟨now, path, made, rfl, hopen, rfl⟩

/-- The file of a session that was started is new in the directory and named after a moment of the
calendar. What is written into it then changes nothing else. -/
lemma create_eq_ok (h : create d clock origin dir base role helper = (.ok session, d')) :
    ∃ now made, ∃ k ≤ maxRetries, clock.read = .ok now ∧ session.path = candidate dir base now k ∧
      (now.later k).isLeap = false ∧ (Civil.ofMoment (now.later k)).isValid = true ∧
        (d.ensureDirectory dir).2.createNew session.path = .ok made ∧ Alike made d' := by
  obtain ⟨now, path, made, hread, hopen, hstart⟩ := exists_start_of_create_eq_ok h
  obtain ⟨rfl, rfl⟩ := Prod.mk.inj hstart
  obtain ⟨k, -, hbound, hpath, hcreate, hcalendar⟩ := openFrom_eq_ok hopen
  obtain ⟨hleap, hvalid⟩ := isValid_ofMoment_later hread hcalendar
  exact ⟨now, made, k, by omega, hread, hpath, hleap, hvalid, hcreate, alike_append _ _ _⟩

end Starting

/-! ### Old files and the new one -/

/-- The session files of a base that stand in a directory, each with its start. -/
def standing (d : Disk) (dir : Path) (base : String) : List (Civil × String) :=
  match d.list dir with
  | .ok names => sessionsAmong base names
  | .error _ => []

/-- The session was started in some second or later. -/
def startsFrom (second : Int) (s : Civil × String) : Bool := second * 2000000000 ≤ s.1.instant

/-- The file of a session that was just started is still there after the old files are removed
exactly if fewer files than are kept start in the second of its name or later. -/
lemma isFile_sweep_iff {clock : Clock} {origin : Origin} {role : Role} {helper : String}
    {session : Session} {keep : ℕ} (hbase : '/' ∉ base.toList) (hkeep : 1 ≤ keep)
    (h : create d clock origin dir base role helper = (.ok session, d')) :
    ∃ now, ∃ k ≤ maxRetries, clock.read = .ok now ∧ session.path = candidate dir base now k ∧
      ((sweep d' dir base keep).2.isFile session.path = true ↔
        (standing (d.ensureDirectory dir).2 dir base).countP (startsFrom (now.later k).seconds) <
          keep) := by
  obtain ⟨now, made, k, hbound, hread, hpath, hleap, hvalid, hcreate, halike⟩ := create_eq_ok h
  generalize (d.ensureDirectory dir).2 = d₁ at hcreate ⊢
  refine ⟨now, k, hbound, hread, hpath, ?_⟩
  have hstart := startOf?_fileName base hvalid
  have hplain := isPlain_of_startOf? hbase hstart
  have hinstant := Civil.instant_wholeSecond_ofMoment hleap
  rw [hpath] at hcreate ⊢
  unfold candidate at hcreate ⊢
  generalize fileName base (now.later k) = name at hcreate hstart hplain ⊢
  generalize (Civil.ofMoment (now.later k)).wholeSecond = start at hstart hinstant
  have hrank : startsFrom (now.later k).seconds = fun s => notOlder s (start, name) := by
    funext s
    rw [startsFrom, notOlder, hinstant]
  rw [hrank]
  obtain ⟨here, hwalk, hcheck, hsize, hlookup, rfl⟩ := createNew_join_eq_ok hplain hcreate
  have hwalk' := halike.walk_eq_ok_iff.mp (walk_insert hlookup (.file (.text "")) hwalk)
  have hmade : d'.isFile (dir.join name) = true := by
    rw [← halike.isFile_eq, isFile_join_iff hplain (walk_insert hlookup _ hwalk)]
    exact ⟨hcheck, hsize, _, lookup_insert_self (by simp) hlookup _⟩
  unfold sweep standing
  cases hdir : checkPath dir with
  | error e =>
    rw [list_eq_error hdir, list_eq_error hdir]
    simp only [hmade, List.countP_nil, true_iff]
    omega
  | ok _ =>
    have hold : d₁.list dir = .ok ((d₁.children here).map (·.1)) :=
      Disk.list_eq_ok_iff.mpr ⟨here, hdir, hwalk, rfl⟩
    -- the new file is listed last, behind all files of its own start
    have hnew : d'.list dir = .ok ((d₁.children here).map (·.1) ++ [name]) := by
      rw [← halike.list_eq_ok_iff, ← names_insert here name (.file (.text ""))]
      exact Disk.list_eq_ok_iff.mpr ⟨here, hdir, walk_insert hlookup _ hwalk, rfl⟩
    rw [hold, hnew]
    dsimp only
    rw [isFile_removeAll_iff (fun _ => isPlain_of_mem_expired hbase) hplain hwalk',
      mem_expired_concat_iff (not_mem_names_of_lookup_eq_none hlookup) hstart]
    simp [hmade]

end ClipboardWatchdog.Session
