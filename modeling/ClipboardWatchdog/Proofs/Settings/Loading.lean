import ClipboardWatchdog.Proofs.Control.Updating
import ClipboardWatchdog.Proofs.Json.Accepting
import ClipboardWatchdog.Proofs.Settings.Describing

/-!
# What is loaded from a settings file

A file that is a JSON object gives the defaults with its members laid over them, if no field is
named twice, each value is one for its field, and what comes of it breaks no rule; any other object
gives the defaults. Settings that have been saved are loaded again, unless they break a rule.
-/

namespace ClipboardWatchdog.Settings

open Json

variable {d d' : Disk} {p p' : Path} {ms ms' : List (List Char × Json)} {s : Settings}

/-! ### Objects -/

/-- The file is an object of these members, and the keys stand for texts. -/
structure HoldsObject (d : Disk) (p : Path) (ms : List (List Char × Json)) : Prop where
  object : ∃ text, d.read p = .ok (.text text) ∧ IsText text (.object ms)
  keys : ∀ m ∈ ms, ∃ key, Means m.1 key

lemma HoldsObject.isWellSpelled (h : HoldsObject d p ms) : ∀ m ∈ ms, m.2.IsWellSpelled := by
  obtain ⟨text, -, htext⟩ := h.object
  exact fun m => htext.isWellSpelled_of_mem

/-- What is loaded goes by what can be taken in. -/
lemma HoldsObject.load_fst (h : HoldsObject d p ms) :
    (load d p).1 =
      match setMembers? {} [] ms with
      | none => {}
      | some s => if s.isValid then s else {} := by
  obtain ⟨text, hread, htext⟩ := h.object
  simp only [load, hread, parse, read?_of_isText htext, ofJson?, isValid]
  cases setMembers? {} [] ms with
  | none => rfl
  | some s => cases hcheck : s.check <;> simp [hcheck]

lemma HoldsObject.setMembers?_eq_some_iff (h : HoldsObject d p ms) :
    setMembers? {} [] ms = some s ↔ NamedOnce ms ∧ Overlays {} ms s := by
  rw [Settings.setMembers?_eq_some_iff _ _ h.keys h.isWellSpelled]
  simp

/-- The object gives the settings that its members describe, if they break no rule. -/
lemma HoldsObject.load_of_overlays (h : HoldsObject d p ms) (honce : NamedOnce ms)
    (hover : Overlays {} ms s) : (load d p).1 = if s.isValid then s else {} := by
  rw [h.load_fst, h.setMembers?_eq_some_iff.mpr ⟨honce, hover⟩]

lemma HoldsObject.load_of_forall_not (h : HoldsObject d p ms)
    (hno : ∀ s, NamedOnce ms → Overlays {} ms s → s.isValid = false) : (load d p).1 = {} := by
  rw [h.load_fst]
  split
  · rfl
  · next s htake =>
    obtain ⟨honce, hover⟩ := h.setMembers?_eq_some_iff.mp htake
    rw [hno s honce hover, if_neg Bool.false_ne_true]

/-! ### Order and unknown members -/

/-- The members that name a field. -/
def known (ms : List (List Char × Json)) : List (List Char × Json) :=
  ms.filter fun m => ∃ f ∈ Field.all, Names m f

lemma mem_known {m : List Char × Json} : m ∈ known ms ↔ m ∈ ms ∧ ∃ f, Names m f := by
  simp [known, Field.mem_all]

lemma namedOnce_known : NamedOnce (known ms) ↔ NamedOnce ms := by
  rw [NamedOnce, known, List.pairwise_filter]
  constructor
  · intro h
    refine h.imp fun hname f hf hf' => ?_
    exact hname (decide_eq_true ⟨f, f.mem_all, hf⟩) (decide_eq_true ⟨f, f.mem_all, hf'⟩) f hf hf'
  · intro h
    exact h.imp fun hname _ _ => hname

lemma namedOnce_iff_of_perm (h : (known ms).Perm (known ms')) : NamedOnce ms ↔ NamedOnce ms' := by
  rw [← namedOnce_known, ← @namedOnce_known ms']
  exact h.pairwise_iff fun hname f hf hf' => hname f hf' hf

lemma overlays_of_perm {base : Settings} (h : (known ms).Perm (known ms'))
    (hover : Overlays base ms s) : Overlays base ms' s := by
  have hmem : ∀ m f, Names m f → (m ∈ ms' ↔ m ∈ ms) := by
    intro m f hf
    have hiff := h.mem_iff (a := m)
    rw [mem_known, mem_known] at hiff
    constructor
    · intro hm
      exact (hiff.mpr ⟨hm, f, hf⟩).1
    · intro hm
      exact (hiff.mp ⟨hm, f, hf⟩).1
  refine ⟨fun m hm f hf => hover.named m ((hmem m f hf).mp hm) f hf, fun f hf => ?_⟩
  refine hover.unnamed f fun m hm hname => ?_
  exact hf m ((hmem m f hname).mpr hm) hname

/-- The order of the members and the members that name no field do not matter. -/
lemma HoldsObject.load_eq_of_perm (h : HoldsObject d p ms) (h' : HoldsObject d' p' ms')
    (hperm : (known ms).Perm (known ms')) : (load d' p').1 = (load d p).1 := by
  by_cases htake : ∃ s, NamedOnce ms ∧ Overlays {} ms s
  · obtain ⟨s, honce, hover⟩ := htake
    rw [h.load_of_overlays honce hover,
      h'.load_of_overlays ((namedOnce_iff_of_perm hperm).mp honce) (overlays_of_perm hperm hover)]
  · push Not at htake
    rw [h.load_of_forall_not fun s honce hover => absurd hover (htake s honce),
      h'.load_of_forall_not fun s honce hover => ?_]
    exact absurd (overlays_of_perm hperm.symm hover)
      (htake s ((namedOnce_iff_of_perm hperm).mpr honce))

/-! ### Loading -/

lemma isValid_of_parse {text : String} (h : parse text = .ok s) : s.isValid = true := by
  unfold parse at h
  split at h
  · cases h
  · split at h
    · cases h
    · split at h
      · cases h
      · next hcheck =>
        obtain rfl := Except.ok.inj h
        simp [isValid, hcheck]

/-- Whatever stands in a file, or if there is none, the settings that are loaded break no rule. -/
lemma isValid_load (d : Disk) (p : Path) : (load d p).1.isValid = true := by
  unfold load
  split
  · exact isValid_default
  · exact isValid_default
  · exact isValid_default
  · split
    · next hparse => exact isValid_of_parse hparse
    · exact isValid_default

/-- A settings file that is an object gives the defaults with its members laid over them, if each
field is named at most once, each value is one for its field, and what comes of it breaks no rule;
in every other case it gives the defaults. -/
theorem load_object (h : HoldsObject d p ms) :
    (NamedOnce ms → Typed ms → ∃! s, Overlays {} ms s) ∧
    (∀ s, NamedOnce ms → Typed ms → Overlays {} ms s → s.isValid = true → (load d p).1 = s) ∧
    ((¬∃ s, NamedOnce ms ∧ Typed ms ∧ Overlays {} ms s ∧ s.isValid = true) →
      (load d p).1 = {}) ∧
    (∀ d' p' ms', HoldsObject d' p' ms' → (known ms).Perm (known ms') →
      (load d' p').1 = (load d p).1) ∧
    ∀ d' p', (load d' p').1.isValid = true := by
  refine ⟨fun honce htyped => ?_, fun s honce _ hover hvalid => ?_, fun hno => ?_,
    fun _ _ _ h' hperm => h.load_eq_of_perm h' hperm, isValid_load⟩
  · obtain ⟨s, hs⟩ := exists_overlays {} h.isWellSpelled honce htyped
    exact ⟨s, hs, fun s' hs' => hs'.eq h.isWellSpelled hs⟩
  · rw [h.load_of_overlays honce hover, if_pos hvalid]
  · refine h.load_of_forall_not fun s honce hover => ?_
    rw [Bool.eq_false_iff]
    intro hvalid
    exact hno ⟨s, honce, hover.typed, hover, hvalid⟩

/-- Members in another order, with an escape in a key and a member that is not known. -/
theorem load_object_scattered :
    let text := "\x7b\"x\":[\x7b\"role\":1\x7d],\n\"\\u0072ole\" :" ++
      "\x7b\"remote\":null\x7d,\"log_dir\":\"a\"\x7d\n"
    let ms : List (List Char × Json) :=
      [("x".toList, .array [.object [("role".toList, .number ['1'])]]),
        ("\\u0072ole".toList, .object [("remote".toList, .null)]),
        ("log_dir".toList, .string ['a'])]
    let d : Disk := { entries := [(["s.json"], .file (.text text))] }
    let p := Path.ofString "s.json"
    HoldsObject d p ms ∧ (load d p).1 = { logDirectory := some "a", role := .onControlled } := by
  intro text ms d p
  have hread : read? text = some (.object ms) := by
    simp only [read?, text, String.reduceAppend, String.reduceToList]
    rfl
  have hkeys : ∀ m ∈ ms, (unescape m.1).isSome = true := by decide +kernel
  have h : HoldsObject d p ms :=
    { object := ⟨text, rfl, read?_eq_some_iff.mp hread⟩
      keys := fun m hm =>
        (Option.isSome_iff_exists.mp (hkeys m hm)).imp fun _ => means_of_unescape }
  have htake : setMembers? {} [] ms = some { logDirectory := some "a", role := .onControlled } := by
    decide +kernel
  obtain ⟨honce, hover⟩ := h.setMembers?_eq_some_iff.mp htake
  exact ⟨h, (load_object h).2.1 _ honce hover.typed hover (by decide)⟩

/-! ### Loading what was saved -/

/-- The whole numbers have room in 64 bits. -/
structure Fits (s : Settings) : Prop where
  pollInterval : s.pollInterval < wholeLimit
  readLimit : s.readLimit < wholeLimit
  resetThreshold : s.resetThreshold < wholeLimit
  settleDelay : s.settleDelay < wholeLimit
  logRetention : s.logRetention < wholeLimit

lemma isString_ofText (s : String) : (ofText s).IsString s :=
  ⟨_, rfl, means_escape s.toList⟩

lemma isWhole_ofNat {n : ℕ} (h : n < wholeLimit) : (ofNat n).IsWhole n := ⟨rfl, h⟩

/-- What is written for a field is its value. -/
lemma denotes_get (h : s.Fits) (f : Field) : f.Denotes (s.get f) (s.value f) := by
  cases f with
  | pollInterval => exact isWhole_ofNat h.pollInterval
  | readLimit => exact isWhole_ofNat h.readLimit
  | resetThreshold => exact isWhole_ofNat h.resetThreshold
  | helper => exact isString_ofText s.helper
  | settleDelay => exact isWhole_ofNat h.settleDelay
  | diagnostics => rfl
  | logDirectory =>
    obtain ⟨_, _, _, _, _, _, _ | dir⟩ := s
    · rfl
    · exact isString_ofText dir
  | logBase => exact isString_ofText s.logBase
  | logRetention => exact isWhole_ofNat h.logRetention
  | role => exact .inl (isString_ofText s.role.name)

lemma names_members_iff {f g : Field} : Names (escape f.key.toList, s.get f) g ↔ f = g := by
  have hself : Names (escape f.key.toList, s.get f) f := means_escape _
  constructor
  · exact hself.eq
  · rintro rfl
    exact hself

lemma namedOnce_members (s : Settings) : NamedOnce s.members := by
  have hnodup : Field.all.Nodup := by decide
  refine List.pairwise_map.mpr (hnodup.imp fun hne g hg hg' => hne ?_)
  rw [names_members_iff.mp hg, names_members_iff.mp hg']

lemma overlays_members (h : s.Fits) : Overlays {} s.members s := by
  refine ⟨fun m hm g hg => ?_, fun f hf => ?_⟩
  · obtain ⟨f, -, rfl⟩ := List.mem_map.mp hm
    obtain rfl := names_members_iff.mp hg
    exact denotes_get h f
  · exact absurd (names_members_iff.mpr rfl) (hf _ (List.mem_map_of_mem f.mem_all))

lemma written_get (s : Settings) (f : Field) :
    Written (.value (s.get f)) (compactChars (s.get f)) := by
  cases f with
  | pollInterval | readLimit | resetThreshold | settleDelay | logRetention => exact written_ofNat _
  | helper | logBase | role => exact written_ofText _
  | diagnostics =>
    obtain ⟨_, _, _, _, _, _ | _⟩ := s
    · exact .boolFalse
    · exact .boolTrue
  | logDirectory =>
    obtain ⟨_, _, _, _, _, _, _ | dir⟩ := s
    · exact .null
    · exact written_ofText dir

/-- The text of a settings file is an object of the members. -/
lemma isText_render (s : Settings) : IsText s.render (.object s.members) := by
  refine isText_pretty (by simp [members, Field.all]) fun m hm => ?_
  obtain ⟨f, -, rfl⟩ := List.mem_map.mp hm
  exact ⟨isSpelling_escape _, written_get s f⟩

lemma read_of_content? {content : Content} (h : d.content? p = some content) :
    d.read p = .ok content := by
  unfold Disk.content? at h
  cases hread : d.read p with
  | error e =>
    rw [hread] at h
    cases h
  | ok content' =>
    rw [hread] at h
    exact congrArg _ (Option.some.inj h)

lemma holdsObject_of_content? (h : d.content? p = some (.text s.render)) :
    HoldsObject d p s.members where
  object := ⟨s.render, read_of_content? h, isText_render s⟩
  keys m hm := by
    obtain ⟨f, -, rfl⟩ := List.mem_map.mp hm
    exact ⟨_, means_escape _⟩

/-- Settings that have been saved are loaded as they were, or the defaults are if they break a
rule. -/
theorem load_save (hfits : s.Fits) (h : s.save d p = (.ok (), d')) :
    (load d' p).1 = if s.isValid then s else {} := by
  have hsaved := s.saved_save d p
  rw [h] at hsaved
  cases hsaved with
  | whole hcontent =>
    exact (holdsObject_of_content? hcontent).load_of_overlays (namedOnce_members s)
      (overlays_members hfits)

/-- Strings with quotes, backslashes, control characters and characters outside of ASCII, and the
largest number of 64 bits, come back as they were. -/
theorem load_save_awkward :
    let s : Settings :=
      { pollInterval := 18446744073709551615, helper := "\"a\\b\n\x01\x7f/é😀",
        logDirectory := some "", logBase := "\t\\", role := .onControlled }
    let p := Path.ofString "new/settings.json"
    (s.save .empty p).1 = .ok () ∧ (load (s.save .empty p).2 p).1 = s :=
  have hsave : _ = Except.ok () := by decide +kernel
  ⟨hsave, (load_save (by constructor <;> decide) (Prod.ext hsave rfl)).trans (if_pos (by decide))⟩

end ClipboardWatchdog.Settings
