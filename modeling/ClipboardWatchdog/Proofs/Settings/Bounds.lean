import ClipboardWatchdog.Proofs.Settings.Loading
import ClipboardWatchdog.Settings.Update

/-!
# Settings that fit into their file

The whole numbers of a settings file have 64 bits. Numbers that are read have that much room, and so
have the settings that come of an update whose numbers do. Settings that fit and break no rule are
read from their text as they are.
-/

namespace ClipboardWatchdog.Settings

open Json

variable {s s' : Settings} {v : Json} {d : Disk} {p : Path} {u : Update}

lemma fits_default : Fits {} := by constructor <;> decide

lemma lt_of_toWhole? {n : ℕ} (h : v.toWhole? = some n) : n < wholeLimit := by
  unfold toWhole? at h
  split at h
  · split at h
    · next hrow =>
      obtain rfl := Option.some.inj h
      exact hrow.2
    · cases h
  · cases h

/-- A value that is taken in fits, whatever field it is of. -/
lemma Fits.set? (h : s.Fits) {f : Field} (hset : s.set? v f = some s') : s'.Fits := by
  cases f with
  | pollInterval =>
    obtain ⟨n, hn, rfl⟩ := Option.map_eq_some_iff.mp hset
    exact { h with pollInterval := lt_of_toWhole? hn }
  | readLimit =>
    obtain ⟨n, hn, rfl⟩ := Option.map_eq_some_iff.mp hset
    exact { h with readLimit := lt_of_toWhole? hn }
  | resetThreshold =>
    obtain ⟨n, hn, rfl⟩ := Option.map_eq_some_iff.mp hset
    exact { h with resetThreshold := lt_of_toWhole? hn }
  | settleDelay =>
    obtain ⟨n, hn, rfl⟩ := Option.map_eq_some_iff.mp hset
    exact { h with settleDelay := lt_of_toWhole? hn }
  | logRetention =>
    obtain ⟨n, hn, rfl⟩ := Option.map_eq_some_iff.mp hset
    exact { h with logRetention := lt_of_toWhole? hn }
  | helper | diagnostics | logDirectory | logBase | role =>
    obtain ⟨x, -, rfl⟩ := Option.map_eq_some_iff.mp hset
    exact { h with }

lemma Fits.setMembers? (h : s.Fits) {seen : List Field} {ms : List (List Char × Json)}
    (hset : s.setMembers? seen ms = some s') : s'.Fits := by
  induction ms generalizing s seen with
  | nil => exact Option.some.inj hset ▸ h
  | cons m ms ih =>
    simp only [Settings.setMembers?, Option.bind_eq_bind, Option.bind_eq_some_iff] at hset
    obtain ⟨key, -, hset⟩ := hset
    split at hset
    · exact ih h hset
    · split at hset
      · cases hset
      · obtain ⟨next, hnext, hset⟩ := Option.bind_eq_some_iff.mp hset
        exact ih (h.set? hnext) hset

lemma Fits.setItems? (h : s.Fits) {fs : List Field} {vs : List Json}
    (hset : s.setItems? fs vs = some s') : s'.Fits := by
  induction vs generalizing s fs with
  | nil =>
    cases fs <;> exact Option.some.inj hset ▸ h
  | cons v vs ih =>
    cases fs with
    | nil => cases hset
    | cons f fs =>
      obtain ⟨next, hnext, hset⟩ := Option.bind_eq_some_iff.mp hset
      exact ih (h.set? hnext) hset

lemma fits_of_ofJson? (h : ofJson? v = some s) : s.Fits := by
  cases v with
  | object ms => exact fits_default.setMembers? h
  | array vs => exact fits_default.setItems? h
  | _ => cases h

lemma fits_of_parse {text : String} (h : parse text = .ok s) : s.Fits := by
  unfold parse at h
  split at h
  · cases h
  · split at h
    · cases h
    · next htaken =>
      split at h
      · cases h
      · obtain rfl := Except.ok.inj h
        exact fits_of_ofJson? htaken

/-- Settings that were loaded fit into a file, whatever stood in theirs. -/
lemma fits_load (d : Disk) (p : Path) : (load d p).1.Fits := by
  unfold load
  split
  · exact fits_default
  · exact fits_default
  · exact fits_default
  · split
    · next hparse => exact fits_of_parse hparse
    · exact fits_default

/-- The whole numbers of an update have room in 64 bits. -/
structure Update.Fits (u : Update) : Prop where
  pollInterval : ∀ n ∈ u.pollInterval, n < wholeLimit
  readLimit : ∀ n ∈ u.readLimit, n < wholeLimit
  resetThreshold : ∀ n ∈ u.resetThreshold, n < wholeLimit
  settleDelay : ∀ n ∈ u.settleDelay, n < wholeLimit
  logRetention : ∀ n ∈ u.logRetention, n < wholeLimit

lemma getD_lt {limit n : ℕ} {o : Option ℕ} (ho : ∀ m ∈ o, m < limit) (hn : n < limit) :
    o.getD n < limit := by
  cases o with
  | none => exact hn
  | some m => exact ho m rfl

lemma Fits.overlay (h : s.Fits) (hu : u.Fits) : (s.overlay u).Fits where
  pollInterval := getD_lt hu.pollInterval h.pollInterval
  readLimit := getD_lt hu.readLimit h.readLimit
  resetThreshold := getD_lt hu.resetThreshold h.resetThreshold
  settleDelay := getD_lt hu.settleDelay h.settleDelay
  logRetention := getD_lt hu.logRetention h.logRetention

lemma apply_eq_ok_iff :
    s.apply u = .ok s' ↔
      ∃ role, s.updatedRole u = .ok role ∧ s' = { s.overlay u with role } ∧ s'.isValid = true := by
  unfold apply
  cases s.updatedRole u with
  | error e => simp
  | ok role =>
    dsimp only
    split
    · next flaw hflaw =>
      refine iff_of_false (by simp) ?_
      rintro ⟨_, ⟨⟩, rfl, hvalid⟩
      simp [isValid, hflaw] at hvalid
    · next hcheck =>
      constructor
      · rintro ⟨⟩
        exact ⟨role, rfl, rfl, by simp [isValid, hcheck]⟩
      · rintro ⟨_, ⟨⟩, rfl, -⟩
        rfl

/-- What an update gives if it is accepted. -/
lemma apply_eq_ok (h : s.apply u = .ok s') :
    ∃ role, s' = { s.overlay u with role } ∧ s'.isValid = true := by
  obtain ⟨role, -, heq, hvalid⟩ := apply_eq_ok_iff.mp h
  exact ⟨role, heq, hvalid⟩

lemma Fits.apply (h : s.Fits) (hu : u.Fits) (happly : s.apply u = .ok s') : s'.Fits := by
  obtain ⟨role, rfl, -⟩ := apply_eq_ok happly
  exact { h.overlay hu with }

/-- Where the text of settings stands that fit and break no rule, they are what is loaded. -/
lemma load_of_content? (hfits : s.Fits) (hvalid : s.isValid = true)
    (h : d.content? p = some (.text s.render)) : load d p = (s, none) := by
  have hcheck : s.check = none := by simpa [isValid] using hvalid
  have htaken : Settings.setMembers? {} [] s.members = some s :=
    (holdsObject_of_content? h).setMembers?_eq_some_iff.mpr
      ⟨namedOnce_members s, overlays_members hfits⟩
  simp only [load, read_of_content? h, parse, read?_of_isText (isText_render s), ofJson?, htaken,
    hcheck]

end ClipboardWatchdog.Settings
