import ClipboardWatchdog.Proofs.Session.Sparing
import ClipboardWatchdog.Proofs.Storage.Listing
import ClipboardWatchdog.Proofs.Watchdog.ActiveSession

/-!
# Sessions that retention can reach

The base name of the session files is joined to the path of their directory where a file is made,
and matched against the names in that directory where old files are removed. A base with a slash
means a path in the one place and part of a name in the other: the file is made in another directory
or under another name, and is never removed. `Watchdog.session_within_reach_iff` says that this is
the only case, whatever else the base holds; for the directory itself, the empty path cannot be
listed though files can be made by it.
-/

namespace ClipboardWatchdog

/-! ### Joined paths -/

namespace Path

variable {p : Path} {name : String}

lemma not_mem_of_mem_cut {cs part : List Char} (h : part ∈ cut cs) : '/' ∉ part := by
  induction cs generalizing part with
  | nil => simp_all [cut]
  | cons c cs ih =>
    unfold cut at h
    split at h
    · rcases List.mem_cons.mp h with rfl | h
      · exact List.not_mem_nil
      · exact ih h
    · next hc =>
      split at h
      · obtain rfl := List.mem_singleton.mp h
        simpa using Ne.symm hc
      · next first rest hcut =>
        rw [hcut] at ih
        rcases List.mem_cons.mp h with rfl | h
        · simpa [Ne.symm hc] using ih List.mem_cons_self
        · exact ih (List.mem_cons_of_mem _ h)

/-- The last segment of a path that was joined to a text is a segment of the text. -/
lemma not_mem_of_getLast?_join {last : String}
    (h : (p.join name).segments.getLast? = some last) : '/' ∉ last.toList := by
  obtain ⟨front, part, hcut⟩ := exists_cut_append List.not_mem_nil name.toList
  rw [List.append_nil, List.append_nil] at hcut
  have hmem : part ∈ cut name.toList := by simp [hcut]
  have hlast : (p.join name).segments.getLast? = some (String.ofList part) := by
    unfold join
    split <;> simp [ofString, hcut]
  obtain rfl := Option.some.inj (h.symm.trans hlast)
  rw [String.toList_ofList]
  exact not_mem_of_mem_cut hmem

end Path

/-! ### Files in a directory -/

namespace Session

open ClipboardWatchdog.Path Disk

variable {d d' : Disk} {dir : Path} {base : String} {m : Moment} {k : ℕ} {place : Place}

/-- The file stands or would stand in the directory itself, under a name that retention takes for
that of a session. -/
def IsWithinReach (d : Disk) (dir : Path) (base : String) (file : Path) : Prop :=
  ∃ here name, d.walk [] dir.segments = .ok here ∧ d.locate file = .ok (.named here name false) ∧
    (startOf? base name).isSome = true

/-- The file is listed in the directory as one of a session. -/
def IsListed (d : Disk) (dir : Path) (base : String) (file : Path) : Prop :=
  ∃ session ∈ standing d dir base, file = dir.join session.2

/-- A name without slash stands for the entry of that name where its path leads anywhere. -/
lemma locate_candidate (hbase : '/' ∉ base.toList)
    (hvalid : (Civil.ofMoment (m.later k)).isValid = true)
    (hleads : d.Leads (candidate dir base m k) place) :
    ∃ here, checkPath (candidate dir base m k) = .ok () ∧ d.walk [] dir.segments = .ok here ∧
      d.locate (candidate dir base m k) = .ok (.named here (fileName base (m.later k)) false) := by
  obtain ⟨here, name, hlocate, -⟩ := hleads
  have hplain := isPlain_of_startOf? hbase (startOf?_fileName base hvalid)
  obtain ⟨hpath, -⟩ := walk_dropLast_of_locate hlocate
  refine ⟨here, hpath, ?_⟩
  unfold candidate at hlocate hpath ⊢
  rw [locate_join hplain, hpath] at hlocate ⊢
  dsimp only at hlocate ⊢
  cases hwalk : d.walk [] dir.segments with
  | error e =>
    rw [hwalk] at hlocate
    cases hlocate
  | ok there =>
    rw [hwalk] at hlocate
    obtain ⟨rfl, -⟩ := End.named.inj (Except.ok.inj hlocate)
    exact ⟨rfl, rfl⟩

/-- A file within reach has a name that tells a start. -/
lemma IsWithinReach.exists_startOf? {file : Path} (h : IsWithinReach d dir base file) :
    ∃ name start, file.segments.getLast? = some name ∧ startOf? base name = some start := by
  obtain ⟨here, name, -, hlocate, hstart⟩ := h
  obtain ⟨start, hstart⟩ := Option.isSome_iff_exists.mp hstart
  exact ⟨name, start, getLast?_segments_of_locate hlocate, hstart⟩

/-- The file of a session is within reach exactly if its base has no slash. -/
lemma isWithinReach_candidate_iff (hvalid : (Civil.ofMoment (m.later k)).isValid = true)
    (hleads : d.Leads (candidate dir base m k) place) :
    IsWithinReach d dir base (candidate dir base m k) ↔ '/' ∉ base.toList := by
  constructor
  · intro hreach hslash
    obtain ⟨name, start, hlast, hstart⟩ := hreach.exists_startOf?
    obtain ⟨stamp, hchars, -⟩ := toList_of_startOf? hstart
    exact not_mem_of_getLast?_join hlast (by simp [hchars, hslash])
  · intro hbase
    obtain ⟨here, -, hwalk, hlocate⟩ := locate_candidate hbase hvalid hleads
    exact ⟨here, _, hwalk, hlocate, by rw [startOf?_fileName base hvalid]; rfl⟩

/-- A file within reach is listed, unless the path of the directory is empty. -/
lemma isListed_candidate_iff (hbase : '/' ∉ base.toList)
    (hvalid : (Civil.ofMoment (m.later k)).isValid = true)
    (hfile : d.isFile (candidate dir base m k) = true) :
    IsListed d dir base (candidate dir base m k) ↔ dir.chars ≠ [] := by
  constructor
  · rintro ⟨session, hsession, -⟩ hnil
    have hpath : checkPath dir = .error .notFound := by
      unfold checkPath
      rw [hnil]
      rfl
    unfold standing at hsession
    rw [list_eq_error hpath] at hsession
    cases hsession
  · intro hchars
    obtain ⟨place, content, hstat⟩ := isFile_iff.mp hfile
    obtain ⟨hleads, hlookup⟩ := stat_eq_file_iff.mp hstat
    obtain ⟨here, hpath, hwalk, hlocate⟩ := locate_candidate hbase hvalid hleads
    have hstart := startOf?_fileName base hvalid
    have hdir : checkPath dir = .ok () :=
      checkPath_eq_ok_of_chars (chars_isPrefix_join (isPlain_of_startOf? hbase hstart) dir) hchars
        hpath
    obtain ⟨here', name, hlocate', -, rfl⟩ := hleads
    obtain ⟨rfl, rfl, -⟩ := End.named.inj (Except.ok.inj (hlocate.symm.trans hlocate'))
    refine ⟨((Civil.ofMoment (m.later k)).wholeSecond, fileName base (m.later k)), ?_, rfl⟩
    unfold standing
    rw [Disk.list_eq_ok_iff.mpr ⟨here, hdir, hwalk, rfl⟩]
    exact mem_sessionsAmong_iff.mpr ⟨mem_names_of_lookup hlookup, hstart⟩

/-- No entry of a directory is taken for the file of a session whose base has a slash. -/
lemma standing_eq_nil (hbase : '/' ∈ base.toList)
    (hlisted : ∀ names, d.list dir = .ok names → ∀ n ∈ names, '/' ∉ n.toList) :
    standing d dir base = [] := by
  unfold standing
  split
  · next names hlist =>
    rw [List.eq_nil_iff_forall_not_mem]
    intro session hsession
    obtain ⟨hname, hstart⟩ := mem_sessionsAmong_iff.mp hsession
    obtain ⟨stamp, hchars, -⟩ := toList_of_startOf? hstart
    exact hlisted names hlist _ hname (by simp [hchars, hbase])
  · rfl

/-- The file of a session that was started is named after a moment of the calendar, and its path
leads to its place. -/
lemma leads_of_create_eq_ok {clock : Clock} {origin : Origin} {role : Role} {helper : String}
    {session : Session} (h : create d clock origin dir base role helper = (.ok session, d')) :
    ∃ m k place, session.path = candidate dir base m k ∧
      (Civil.ofMoment (m.later k)).isValid = true ∧ d'.Leads session.path place := by
  obtain ⟨m, made, k, -, -, hpath, -, hvalid, hcreate, halike⟩ := create_eq_ok h
  obtain ⟨place, hleads, hnone, rfl⟩ := createNew_eq_ok hcreate
  have hleads := hleads.mono (grown_insert hnone (.file (.text ""))).keepsDirectories
  exact ⟨m, k, place, hpath, hvalid, hleads.mono fun _ => halike.lookup_directory⟩

end Session

/-! ### The session of a watchdog -/

namespace Watchdog

open Session

variable {σ : Type}

/-- In every run and with any settings: the session that entering the mode has just started has a
file within the reach of retention exactly if the base name has no slash. The file is then listed
among those that retention ranks, as long as it is there, unless the directory that is set is the
empty path. With a slash in the base, there is nothing that retention ranks at all. -/
theorem session_within_reach_iff (s : Settings) (dataHome : Path) (origin : Origin) (host : Host σ)
    (receiver : Option (Delivery → Option Fault)) (state : σ) (disk : Disk) (clock : Clock)
    (steps : List (Clock × Operation)) (now : Clock) :
    let dir := Config.logDirectoryOf dataHome s
    let w : Watchdog σ := ⟨.ofSettings dataHome origin s, host, receiver⟩
    let before := w.after (w.opening state disk clock) steps
    let r := w.enableDiagnostics.run.run (before.withClock now)
    before.around.journal.isRecording = false → r.1 = .ok (.ok ()) →
      ∃ file, r.2.around.journal.sessionPath = some file ∧
        (IsWithinReach r.2.around.journal.disk dir s.logBase file ↔ '/' ∉ s.logBase.toList) ∧
        ('/' ∉ s.logBase.toList → r.2.around.journal.disk.isFile file = true →
          (IsListed r.2.around.journal.disk dir s.logBase file ↔ dir.chars ≠ [])) ∧
        ('/' ∈ s.logBase.toList →
          (∀ names, r.2.around.journal.disk.list dir = .ok names → ∀ n ∈ names, '/' ∉ n.toList) →
          standing r.2.around.journal.disk dir s.logBase = []) := by
  intro dir w before r hoff hresult
  have hoff : (before.withClock now).around.journal.isRecording = false := hoff
  obtain ⟨session, made, hcreate, hpath, halike⟩ :=
    w.enableDiagnostics_eq_ok hoff (Prod.ext hresult rfl)
  obtain ⟨m, k, place, hname, hvalid, hleads⟩ := leads_of_create_eq_ok hcreate
  -- removing old files and writing leave the directories that the path leads through
  have hleads : r.2.around.journal.disk.Leads session.path place :=
    (hleads.mono (keepsDirectories_sweep _ _ _ _)).mono fun _ => halike.lookup_directory
  rw [hname] at hpath hleads
  exact ⟨_, hpath, isWithinReach_candidate_iff hvalid hleads,
    fun hbase hfile => isListed_candidate_iff hbase hvalid hfile, standing_eq_nil⟩

theorem session_within_reach_iff_first :
    let s : Settings := { logDirectory := some "/logs", logBase := "d", logRetention := 1 }
    let dir := Config.logDirectoryOf (.ofString "/data") s
    let now : Clock := ⟨⟨1773047107, 0⟩⟩
    let w : Watchdog ProcessTable :=
      ⟨.ofSettings (.ofString "/data") default s, ProcessTable.host, none⟩
    let before := w.after (w.opening {} .empty now) []
    let r := w.enableDiagnostics.run.run (before.withClock now)
    before.around.journal.isRecording = false ∧ r.1 = .ok (.ok ()) ∧
      ∃ file, r.2.around.journal.sessionPath = some file ∧
        (IsWithinReach r.2.around.journal.disk dir s.logBase file ↔ '/' ∉ s.logBase.toList) ∧
        ('/' ∉ s.logBase.toList → r.2.around.journal.disk.isFile file = true →
          (IsListed r.2.around.journal.disk dir s.logBase file ↔ dir.chars ≠ [])) ∧
        ('/' ∈ s.logBase.toList →
          (∀ names, r.2.around.journal.disk.list dir = .ok names → ∀ n ∈ names, '/' ∉ n.toList) →
          standing r.2.around.journal.disk dir s.logBase = []) := by
  intro s dir now w before r
  have hresult : r.1 = .ok (.ok ()) := by decide +kernel
  have hreach := session_within_reach_iff s (.ofString "/data") default ProcessTable.host none {}
    .empty now [] now
  extract_lets at hreach
  exact ⟨rfl, hresult, hreach rfl hresult⟩

/-- Two sessions of a base that names the directory itself, of which one file is to be kept. Both
files stand in the directory under names without the front part of the base, and retention does not
know them. -/
theorem session_out_of_reach :
    let s : Settings := { logDirectory := some "/logs", logBase := "./d", logRetention := 1 }
    let dir := Config.logDirectoryOf (.ofString "/data") s
    let now : Clock := ⟨⟨1773047107, 0⟩⟩
    let w : Watchdog ProcessTable :=
      ⟨.ofSettings (.ofString "/data") default s, ProcessTable.host, none⟩
    let before := w.after (w.opening {} .empty now) [(now, .enable), (now, .disable)]
    let r := w.enableDiagnostics.run.run (before.withClock ⟨⟨1773047108, 0⟩⟩)
    let names := ["d_2026-03-09_09-05-07.log", "d_2026-03-09_09-05-08.log"]
    let file := dir.join "./d_2026-03-09_09-05-08.log"
    s.isValid = true ∧ before.around.journal.isRecording = false ∧ r.1 = .ok (.ok ()) ∧
      r.2.around.journal.sessionPath = some file ∧ r.2.around.journal.disk.isFile file = true ∧
      (r.2.around.journal.disk.list dir).toOption = some names ∧
      (∀ name ∈ names, startOf? s.logBase name = none) ∧
      ¬IsWithinReach r.2.around.journal.disk dir s.logBase file := by
  intro s dir now w before r names file
  have hnames : ∀ name ∈ names, startOf? s.logBase name = none := by decide +kernel
  refine ⟨by decide, by decide +kernel, by decide +kernel, by decide +kernel, by decide +kernel,
    by decide +kernel, hnames, fun hreach => ?_⟩
  obtain ⟨name, start, hlast, hstart⟩ := hreach.exists_startOf?
  obtain rfl : "d_2026-03-09_09-05-08.log" = name := Option.some.inj hlast
  have hnone := hnames "d_2026-03-09_09-05-08.log" (by decide)
  rw [hnone] at hstart
  cases hstart

end Watchdog

end ClipboardWatchdog
