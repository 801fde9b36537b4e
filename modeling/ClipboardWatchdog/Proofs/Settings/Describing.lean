import ClipboardWatchdog.Proofs.Json.Meaning
import ClipboardWatchdog.Settings.Codec
import Mathlib.Tactic.Common

/-!
# What the members of an object say about the settings

A member of an object names a field, or none, and its value may be one for that field. Laid over a
base, the members give each field that is named the value that it is given and leave the others as
they are in the base. `Settings.setMembers?` finds these settings where no field is named twice.
-/

namespace ClipboardWatchdog

open Text

/-! ### The values of the fields -/

namespace Json

/-- A string that stands for the text. -/
def IsString (v : Json) (s : String) : Prop := ∃ cs, v = .string cs ∧ Means cs s.toList

/-- The usual spelling of a whole number that has room in 64 bits. -/
def IsWhole (v : Json) (n : ℕ) : Prop := v = .number (digits n) ∧ n < wholeLimit

/-- The name of a role, or an object of that one name and null. -/
def IsRole (v : Json) (r : RoleChoice) : Prop :=
  v.IsString r.name ∨ ∃ cs, v = .object [(cs, .null)] ∧ Means cs r.name.toList

variable {v : Json}

lemma toText?_eq_some_iff {s : String} : v.toText? = some s ↔ v.IsString s := by
  cases v with
  | string cs =>
    have hiff : unescape cs = some s.toList ↔ Means cs s.toList := unescape_eq_some_iff
    simp only [toText?, IsString, string.injEq, exists_eq_left', ← hiff, Option.map_eq_some_iff]
    constructor
    · rintro ⟨t, ht, rfl⟩
      rw [ht, String.toList_ofList]
    · intro h
      exact ⟨_, h, String.ofList_toList⟩
  | _ => simp [toText?, IsString]

/-- A number that a text can have is read as a whole number if it is the spelling of one. -/
lemma toWhole?_eq_some_iff {n : ℕ} (hv : v.IsWellSpelled) : v.toWhole? = some n ↔ v.IsWhole n := by
  cases v with
  | number cs =>
    simp only [toWhole?, IsWhole, number.injEq]
    constructor
    · intro h
      split at h
      · next hcs =>
        obtain rfl := Option.some.inj h
        exact ⟨hv.eq_digits (List.all_eq_true.mp hcs.1), hcs.2⟩
      · cases h
    · rintro ⟨rfl, hn⟩
      rw [ofDigits_digits, if_pos]
      exact ⟨List.all_eq_true.mpr fun _ => isDigit_of_mem_digits, hn⟩
  | _ => simp [toWhole?, IsWhole]

lemma toBool?_eq_some_iff {b : Bool} : v.toBool? = some b ↔ v = .bool b := by
  cases v <;> simp [toBool?]

lemma toRoleChoice?_eq_some_iff {r : RoleChoice} : v.toRoleChoice? = some r ↔ v.IsRole r := by
  have hname : ∀ cs, ((unescape cs).bind fun t => RoleChoice.ofName? (String.ofList t)) = some r ↔
      Means cs r.name.toList := by
    intro cs
    rw [← unescape_eq_some_iff, Option.bind_eq_some_iff]
    constructor
    · rintro ⟨t, ht, hr⟩
      rw [ht, ← RoleChoice.ofName?_eq_some_iff.mp hr, String.toList_ofList]
    · intro h
      exact ⟨_, h, by rw [String.ofList_toList]; exact RoleChoice.ofName?_eq_some_iff.mpr rfl⟩
  constructor
  · intro h
    unfold toRoleChoice? at h
    split at h
    · next cs => exact .inl ⟨cs, rfl, (hname cs).mp h⟩
    · next cs => exact .inr ⟨cs, rfl, (hname cs).mp h⟩
    · cases h
  · rintro (⟨cs, rfl, hcs⟩ | ⟨cs, rfl, hcs⟩)
    · exact (hname cs).mpr hcs
    · exact (hname cs).mpr hcs

end Json

namespace Settings

namespace Field

/-- The type of the values of a field. -/
def Value : Field → Type
  | pollInterval | readLimit | resetThreshold | settleDelay | logRetention => ℕ
  | helper | logBase => String
  | diagnostics => Bool
  | logDirectory => Option String
  | role => RoleChoice

/-- The value in a file that is a value of the field, and which one. -/
def Denotes : (f : Field) → Json → f.Value → Prop
  | pollInterval, v, n => v.IsWhole n
  | readLimit, v, n => v.IsWhole n
  | resetThreshold, v, n => v.IsWhole n
  | helper, v, s => v.IsString s
  | settleDelay, v, n => v.IsWhole n
  | diagnostics, v, b => v = .bool b
  | logDirectory, v, none => v = .null
  | logDirectory, v, some dir => v.IsString dir
  | logBase, v, s => v.IsString s
  | logRetention, v, n => v.IsWhole n
  | role, v, r => v.IsRole r

end Field

/-- The value that the settings have for a field. -/
def value (s : Settings) : (f : Field) → f.Value
  | .pollInterval => s.pollInterval
  | .readLimit => s.readLimit
  | .resetThreshold => s.resetThreshold
  | .helper => s.helper
  | .settleDelay => s.settleDelay
  | .diagnostics => s.diagnostics
  | .logDirectory => s.logDirectory
  | .logBase => s.logBase
  | .logRetention => s.logRetention
  | .role => s.role

/-- The settings with another value for one field. -/
def put (s : Settings) : (f : Field) → f.Value → Settings
  | .pollInterval, n => { s with pollInterval := n }
  | .readLimit, n => { s with readLimit := n }
  | .resetThreshold, n => { s with resetThreshold := n }
  | .helper, t => { s with helper := t }
  | .settleDelay, n => { s with settleDelay := n }
  | .diagnostics, b => { s with diagnostics := b }
  | .logDirectory, t => { s with logDirectory := t }
  | .logBase, t => { s with logBase := t }
  | .logRetention, n => { s with logRetention := n }
  | .role, r => { s with role := r }

variable {s s' : Settings} {f g : Field} {v : Json}

@[simp] lemma value_put_self (s : Settings) (f : Field) (x : f.Value) :
    (s.put f x).value f = x := by
  cases f <;> rfl

lemma value_put_of_ne (s : Settings) (h : g ≠ f) (x : f.Value) :
    (s.put f x).value g = s.value g := by
  cases f <;> cases g <;> first | rfl | exact absurd rfl h

lemma ext_value (h : ∀ f, s.value f = s'.value f) : s = s' := by
  cases s
  cases s'
  congr
  · exact h .pollInterval
  · exact h .readLimit
  · exact h .resetThreshold
  · exact h .helper
  · exact h .settleDelay
  · exact h .diagnostics
  · exact h .logDirectory
  · exact h .logBase
  · exact h .logRetention
  · exact h .role

/-- The reader of a field takes what is a value of the field, and nothing else. -/
lemma toOptional?_eq_some_iff {t : Option String} :
    v.toOptional? Json.toText? = some t ↔ Field.logDirectory.Denotes v t := by
  cases t with
  | none => cases v <;> simp [Json.toOptional?, Field.Denotes]
  | some t =>
    rw [show Field.logDirectory.Denotes v (some t) ↔ v.IsString t from Iff.rfl,
      ← Json.toText?_eq_some_iff]
    cases v <;> simp [Json.toOptional?, Json.toText?]

/-- Taking in a value sets the field to what the value is for that field. -/
lemma set?_eq_some_iff (hv : v.IsWellSpelled) :
    s.set? v f = some s' ↔ ∃ x, f.Denotes v x ∧ s.put f x = s' := by
  have hwhole : ∀ n, v.toWhole? = some n ↔ v.IsWhole n := fun _ => Json.toWhole?_eq_some_iff hv
  cases f <;>
    simp only [set?, Option.map_eq_some_iff, hwhole, Json.toText?_eq_some_iff,
      Json.toBool?_eq_some_iff, Json.toRoleChoice?_eq_some_iff, toOptional?_eq_some_iff] <;>
    rfl

/-- A value is at most one value of a field. -/
lemma Field.Denotes.eq {x y : f.Value} (hv : v.IsWellSpelled) (h : f.Denotes v x)
    (h' : f.Denotes v y) : x = y := by
  have hx : ({} : Settings).set? v f = some (({} : Settings).put f x) :=
    (set?_eq_some_iff hv).mpr ⟨x, h, rfl⟩
  rw [(set?_eq_some_iff hv).mpr ⟨y, h', rfl⟩] at hx
  simpa using congrArg (fun s => value s f) (Option.some.inj hx).symm

/-! ### The members of an object -/

/-- A member names a field if its key spells the name of the field. -/
def Names (m : List Char × Json) (f : Field) : Prop := Json.Means m.1 f.key.toList

lemma names_iff {m : List Char × Json} :
    Names m f ↔ Json.unescape m.1 = some f.key.toList :=
  Json.unescape_eq_some_iff.symm

instance (m : List Char × Json) (f : Field) : Decidable (Names m f) :=
  decidable_of_iff _ names_iff.symm

/-- No field is named twice. -/
def NamedOnce (ms : List (List Char × Json)) : Prop :=
  ms.Pairwise fun m m' => ∀ f, Names m f → ¬Names m' f

/-- Each member that names a field has a value for that field. -/
def Typed (ms : List (List Char × Json)) : Prop :=
  ∀ m ∈ ms, ∀ f, Names m f → ∃ x, f.Denotes m.2 x

/-- The settings are the base with the values of the members laid over it. -/
structure Overlays (base : Settings) (ms : List (List Char × Json)) (s : Settings) : Prop where
  named : ∀ m ∈ ms, ∀ f, Names m f → f.Denotes m.2 (s.value f)
  unnamed : ∀ f, (∀ m ∈ ms, ¬Names m f) → s.value f = base.value f

lemma Names.eq {m : List Char × Json} (h : Names m f) (h' : Names m g) : f = g := by
  have hkey : f.key = g.key := String.toList_injective (Json.Means.eq h h')
  have hf := Field.ofKey?_key f
  rw [hkey, Field.ofKey?_key] at hf
  exact (Option.some.inj hf).symm

/-- A key that stands for a text names the field of that name, if there is one. -/
lemma names_iff_ofKey? {m : List Char × Json} {key : List Char} (hkey : Json.Means m.1 key) :
    Names m f ↔ Field.ofKey? (String.ofList key) = some f := by
  constructor
  · intro h
    rw [hkey.eq h, String.ofList_toList]
    exact Field.ofKey?_key f
  · intro h
    have hname : f.key = String.ofList key := by simpa using List.find?_some h
    rw [Names, hname, String.toList_ofList]
    exact hkey

variable {base : Settings} {m : List Char × Json} {ms : List (List Char × Json)} {seen : List Field}

lemma Overlays.typed (h : Overlays base ms s) : Typed ms :=
  fun m hm f hf => ⟨_, h.named m hm f hf⟩

lemma overlays_nil : Overlays base [] s ↔ s = base := by
  constructor
  · intro h
    exact ext_value fun f => h.unnamed f (by simp)
  · rintro rfl
    exact ⟨by simp, fun _ _ => rfl⟩

lemma overlays_cons_of_unknown (hm : ∀ f, ¬Names m f) :
    Overlays base (m :: ms) s ↔ Overlays base ms s := by
  constructor
  · intro h
    refine ⟨fun m' hm' => h.named m' (List.mem_cons_of_mem m hm'), fun f hf => h.unnamed f ?_⟩
    rintro m' hm'
    rcases List.mem_cons.mp hm' with rfl | hm'
    · exact hm f
    · exact hf m' hm'
  · intro h
    refine ⟨fun m' hm' f hf => ?_, fun f hf => h.unnamed f fun m' hm' =>
      hf m' (List.mem_cons_of_mem m hm')⟩
    rcases List.mem_cons.mp hm' with rfl | hm'
    · exact absurd hf (hm f)
    · exact h.named m' hm' f hf

/-- A member that names a field of its own can be laid over the base before the others. -/
lemma overlays_cons_of_names {x : f.Value} (hv : m.2.IsWellSpelled) (hm : Names m f)
    (hx : f.Denotes m.2 x) (hfree : ∀ m' ∈ ms, ¬Names m' f) :
    Overlays base (m :: ms) s ↔ Overlays (base.put f x) ms s := by
  constructor
  · intro h
    refine ⟨fun m' hm' => h.named m' (List.mem_cons_of_mem m hm'), fun g hg => ?_⟩
    by_cases hgf : g = f
    · subst hgf
      rw [value_put_self]
      exact (h.named m List.mem_cons_self g hm).eq hv hx
    · rw [value_put_of_ne _ hgf]
      refine h.unnamed g fun m' hm' hname => ?_
      rcases List.mem_cons.mp hm' with rfl | hm'
      · exact hgf (hname.eq hm)
      · exact hg m' hm' hname
  · intro h
    refine ⟨fun m' hm' g hg => ?_, fun g hg => ?_⟩
    · rcases List.mem_cons.mp hm' with rfl | hm'
      · obtain rfl := hg.eq hm
        rw [h.unnamed g hfree, value_put_self]
        exact hx
      · exact h.named m' hm' g hg
    · have hgf : g ≠ f := by
        rintro rfl
        exact hg m List.mem_cons_self hm
      rw [h.unnamed g fun m' hm' => hg m' (List.mem_cons_of_mem m hm'), value_put_of_ne _ hgf]

/-- The members fix what comes of the base. -/
lemma Overlays.eq (hms : ∀ m ∈ ms, m.2.IsWellSpelled) (h : Overlays base ms s)
    (h' : Overlays base ms s') : s = s' := by
  refine ext_value fun f => ?_
  by_cases hf : ∃ m ∈ ms, Names m f
  · obtain ⟨m, hm, hf⟩ := hf
    exact (h.named m hm f hf).eq (hms m hm) (h'.named m hm f hf)
  · push Not at hf
    rw [h.unnamed f hf, h'.unnamed f hf]

lemma NamedOnce.free (h : NamedOnce (m :: ms)) (hm : Names m f) : ∀ m' ∈ ms, ¬Names m' f :=
  fun m' hm' => (List.pairwise_cons.mp h).1 m' hm' f hm

lemma exists_overlays (base : Settings) (hms : ∀ m ∈ ms, m.2.IsWellSpelled) (honce : NamedOnce ms)
    (htyped : Typed ms) : ∃ s, Overlays base ms s := by
  induction ms generalizing base with
  | nil => exact ⟨base, overlays_nil.mpr rfl⟩
  | cons m ms ih =>
    have ih := fun base => ih base (fun m hm => hms m (List.mem_cons_of_mem _ hm))
      (List.pairwise_cons.mp honce).2 fun m hm => htyped m (List.mem_cons_of_mem _ hm)
    by_cases hm : ∃ f, Names m f
    · obtain ⟨f, hm⟩ := hm
      obtain ⟨x, hx⟩ := htyped m List.mem_cons_self f hm
      obtain ⟨s, hs⟩ := ih (base.put f x)
      exact ⟨s, (overlays_cons_of_names (hms m List.mem_cons_self) hm hx (honce.free hm)).mpr hs⟩
    · push Not at hm
      obtain ⟨s, hs⟩ := ih base
      exact ⟨s, (overlays_cons_of_unknown hm).mpr hs⟩

/-! ### Taking the members in -/

lemma setMembers?_cons_of_unknown {key : List Char} (hkey : Json.Means m.1 key)
    (hm : ∀ f, ¬Names m f) : setMembers? base seen (m :: ms) = setMembers? base seen ms := by
  have hnone : Field.ofKey? (String.ofList key) = none :=
    Option.eq_none_iff_forall_ne_some.mpr fun f hf => hm f ((names_iff_ofKey? hkey).mpr hf)
  simp [setMembers?, Json.unescape_of_means hkey, hnone]

lemma setMembers?_cons_of_names (hm : Names m f) :
    setMembers? base seen (m :: ms) =
      if f ∈ seen then none
      else (base.set? m.2 f).bind fun s => setMembers? s (f :: seen) ms := by
  simp [setMembers?, names_iff.mp hm, Field.ofKey?_key]

/-- Members are taken in if none names a field that has been given, and what comes of it is the
base with them laid over it. -/
theorem setMembers?_eq_some_iff (base : Settings) (seen : List Field)
    (hkeys : ∀ m ∈ ms, ∃ key, Json.Means m.1 key) (hms : ∀ m ∈ ms, m.2.IsWellSpelled) :
    setMembers? base seen ms = some s ↔
      NamedOnce ms ∧ (∀ f ∈ seen, ∀ m ∈ ms, ¬Names m f) ∧ Overlays base ms s := by
  induction ms generalizing base seen with
  | nil => simp [setMembers?, NamedOnce, overlays_nil, eq_comm]
  | cons m ms ih =>
    have ih := fun base seen => ih base seen
      (fun m hm => hkeys m (List.mem_cons_of_mem _ hm))
      (fun m hm => hms m (List.mem_cons_of_mem _ hm))
    obtain ⟨key, hkey⟩ := hkeys m List.mem_cons_self
    by_cases hm : ∃ f, Names m f
    · obtain ⟨f, hm⟩ := hm
      have hv := hms m List.mem_cons_self
      rw [setMembers?_cons_of_names hm]
      split
      · next hgiven =>
        refine ⟨by simp, fun ⟨_, hseen, _⟩ => ?_⟩
        exact absurd hm (hseen f hgiven m List.mem_cons_self)
      · next hgiven =>
        rw [Option.bind_eq_some_iff]
        constructor
        · rintro ⟨s', hset, htake⟩
          obtain ⟨x, hx, rfl⟩ := (set?_eq_some_iff hv).mp hset
          obtain ⟨honce, hseen, hover⟩ := (ih _ _).mp htake
          have hfree := hseen f List.mem_cons_self
          refine ⟨List.pairwise_cons.mpr ⟨fun m' hm' g hg => ?_, honce⟩, fun g hg m' hm' => ?_,
            (overlays_cons_of_names hv hm hx hfree).mpr hover⟩
          · rw [hg.eq hm]
            exact hfree m' hm'
          · rcases List.mem_cons.mp hm' with rfl | hm'
            · intro hname
              exact hgiven (hname.eq hm ▸ hg)
            · exact hseen g (List.mem_cons_of_mem f hg) m' hm'
        · rintro ⟨honce, hseen, hover⟩
          have hfree := honce.free hm
          have hx := hover.named m List.mem_cons_self f hm
          refine ⟨_, (set?_eq_some_iff hv).mpr ⟨_, hx, rfl⟩, (ih _ _).mpr
            ⟨(List.pairwise_cons.mp honce).2, fun g hg m' hm' => ?_,
              (overlays_cons_of_names hv hm hx hfree).mp hover⟩⟩
          rcases List.mem_cons.mp hg with rfl | hg
          · exact hfree m' hm'
          · exact hseen g hg m' (List.mem_cons_of_mem m hm')
    · push Not at hm
      rw [setMembers?_cons_of_unknown hkey hm, ih, overlays_cons_of_unknown hm]
      simp [NamedOnce, List.pairwise_cons, hm]

end Settings

end ClipboardWatchdog
