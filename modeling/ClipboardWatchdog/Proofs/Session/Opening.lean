import ClipboardWatchdog.Proofs.Storage.Frames

/-!
# The file of a new session

A session starts with a file of its own, at a place where nothing stood, and with its header in it.
The directories above the file may be new as well; no other file is made or changed. Where no
session comes of the attempt, directories are all that it leaves.
-/

namespace ClipboardWatchdog.Session

open Disk

variable {d d' : Disk} {clock : Clock} {origin : Origin} {dir : Path} {base : String} {role : Role}
  {helper : String} {session : Session} {place : Place} {content : Content}

/-- A new session is open, has no records, and its file is new. -/
structure IsNew (d d' : Disk) (now : Moment) (origin : Origin) (role : Role) (helper : String)
    (s : Session) (place : Place) : Prop where
  session : s = { path := s.path, role, startedAt := now }
  free : d.lookup place = none
  leads : d'.Leads s.path place
  header : d'.lookup place = some (.file (.text (block (header origin role now helper))))
  kept : ∀ place' entry, d.lookup place' = some entry → d'.lookup place' = some entry
  others : ∀ place' content, place' ≠ place → d'.lookup place' = some (.file content) →
    d.lookup place' = some (.file content)
  full : d'.full = d.full

/-- The file of a session is made on a disk that holds its directory. -/
lemma isNew_start {made : Disk} {now : Moment} {path : Path} (hgrown : d.Grown d')
    (hfiles : ∀ place content, d'.lookup place = some (.file content) →
      d.lookup place = some (.file content))
    (hcreate : d'.createNew path = .ok made) (hfull : d.full = false) :
    ∃ place, IsNew d (start made now origin path role helper).2 now origin role helper
      (start made now origin path role helper).1 place := by
  obtain ⟨place, hleads, hnone, rfl⟩ := createNew_eq_ok hcreate
  have hmade := lookup_insert_self hleads.ne_nil hnone (.file (.text ""))
  have hinsert := grown_insert hnone (.file (.text ""))
  have hleads' := hleads.mono hinsert.keepsDirectories
  have hfull' : (d'.insert place (.file (.text ""))).full = false :=
    hinsert.full.trans (hgrown.full.trans hfull)
  have hother {place' : Place} (h : place' ≠ place) (text : String) :
      ((d'.insert place (.file (.text ""))).append path text).2.lookup place' =
        d'.lookup place' := by
    rw [lookup_append_of_not_leads fun hleads => h (hleads.eq hleads'), lookup_insert_of_ne h]
  refine ⟨place, rfl, ?_, hleads'.mono (keepsDirectories_append _ _ _), ?_, ?_, ?_, ?_⟩
  · cases hlookup : d.lookup place with
    | none => rfl
    | some entry => cases hnone.symm.trans (hgrown.kept place entry hlookup)
  · have hheader := lookup_append_of_leads hleads' hmade hfull'
      (block (header origin role now helper))
    rwa [String.empty_append] at hheader
  · intro place' entry hentry
    have hkept := hgrown.kept place' entry hentry
    refine (hother ?_ _).trans hkept
    rintro rfl
    cases hnone.symm.trans hkept
  · intro place' content hne hfile
    exact hfiles place' content ((hother hne _).symm.trans hfile)
  · exact (full_append _ _ _).trans (hinsert.full.trans hgrown.full)

/-- Making the directories above the file makes no file. -/
lemma lookup_of_ensureDirectory
    (h : (d.ensureDirectory dir).2.lookup place = some (.file content)) :
    d.lookup place = some (.file content) :=
  lookup_of_makeDirectories d dir _ h

/-- Where a session was started, it and its file are new. -/
lemma isNew_of_create_eq_ok (hfull : d.full = false)
    (h : create d clock origin dir base role helper = (.ok session, d')) :
    ∃ now place, clock.read = .ok now ∧ IsNew d d' now origin role helper session place := by
  obtain ⟨now, path, made, hread, hopen, hstart⟩ := exists_start_of_create_eq_ok h
  obtain ⟨rfl, rfl⟩ := Prod.mk.inj hstart
  obtain ⟨_, -, -, -, hcreate, -⟩ := openFrom_eq_ok hopen
  obtain ⟨place, hnew⟩ := isNew_start (grown_of_ensureDirectory d dir)
    (fun _ _ => lookup_of_ensureDirectory) hcreate hfull
  exact ⟨now, place, hread, hnew⟩

/-- Where no session could be started, at most the directories above its file were made. -/
lemma disk_of_create_eq_error {e : SessionError}
    (h : create d clock origin dir base role helper = (.error e, d')) :
    d' = (d.ensureDirectory dir).2 := by
  unfold create at h
  split at h
  · next hensure =>
    rw [hensure]
    exact (Prod.mk.inj h).2.symm
  · next hensure =>
    rw [hensure]
    split at h
    · exact (Prod.mk.inj h).2.symm
    · split at h
      · exact (Prod.mk.inj h).2.symm
      · cases (Prod.mk.inj h).1

end ClipboardWatchdog.Session
