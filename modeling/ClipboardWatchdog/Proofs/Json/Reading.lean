import ClipboardWatchdog.Json.Reader
import ClipboardWatchdog.Proofs.Json.Grammar
import Mathlib.Data.List.DropRight

/-!
# Reading what is written

The reader takes every text of the grammar and gives its value back. A number ends only where no
more of a number follows, so what is left behind a part has to be something that ends one; the
fuel is enough from twice the number of characters on.
-/

namespace ClipboardWatchdog.Json

open Text

variable {cs rest gap : List Char} {fuel : ℕ}

/-! ### White space -/

lemma isSpace_of_isGap (h : IsGap gap) {c : Char} (hc : c ∈ gap) : isSpace c = true := by
  have hmem := h c hc
  simp only [List.mem_cons, List.not_mem_nil, or_false] at hmem
  rcases hmem with rfl | rfl | rfl | rfl <;> rfl

lemma skipSpace_append (h : IsGap gap) (rest : List Char) :
    skipSpace (gap ++ rest) = skipSpace rest :=
  List.dropWhile_append_of_pos fun _ => isSpace_of_isGap h

lemma skipSpace_cons {c : Char} (h : isSpace c = false) (rest : List Char) :
    skipSpace (c :: rest) = c :: rest :=
  List.dropWhile_cons_of_neg (by simp [h])

lemma skipSpace_eq_nil (h : IsGap gap) : skipSpace gap = [] :=
  List.dropWhile_eq_nil_iff.mpr fun _ => isSpace_of_isGap h

/-! ### Strings -/

lemma readSpelling_append (h : IsSpelling cs) (rest : List Char) :
    readSpelling (cs ++ '"' :: rest) = some (cs, rest) := by
  induction h with
  | nil => rfl
  | plain hprint hquote hslash _ ih =>
    rw [List.cons_append, readSpelling, if_neg hquote, if_neg, ih, Option.map_some]
    · rintro (h | h)
      · exact hslash h
      · omega
    · rintro a b c d rest rfl
      exact absurd rfl hslash
    · rintro e rest rfl
      exact absurd rfl hslash
  | short he _ ih =>
    have hsome := mem_shortEscapes_iff.mp he
    rw [List.cons_append, List.cons_append, readSpelling, hsome, Option.isSome_some, if_pos rfl, ih,
      Option.map_some]
    rintro a b c d rest rfl
    cases hsome
  | unit hunit _ ih => simp [readSpelling, hunit, ih]

/-! ### Numbers -/

/-- No number goes on with these characters. -/
def EndsNumber (rest : List Char) : Prop :=
  ∀ c ∈ rest.head?, isDigit c = false ∧ c ≠ '.' ∧ c ≠ 'e' ∧ c ≠ 'E'

/-- A row of digits ends with these characters. -/
def EndsRow (rest : List Char) : Prop := ∀ c ∈ rest.head?, isDigit c = false

lemma EndsNumber.endsRow (h : EndsNumber rest) : EndsRow rest := fun c hc => (h c hc).1

lemma endsRow_cons {c : Char} (h : isDigit c = false) (rest : List Char) : EndsRow (c :: rest) := by
  intro d hd
  obtain rfl := Option.some.inj hd
  exact h

lemma dropWhile_isDigit (h : EndsRow rest) : rest.dropWhile isDigit = rest := by
  cases rest with
  | nil => rfl
  | cons c rest => exact List.dropWhile_cons_of_neg (by simp [h c rfl])

lemma takeWhile_isDigit (h : EndsRow rest) : rest.takeWhile isDigit = [] := by
  cases rest with
  | nil => rfl
  | cons c rest => exact List.takeWhile_cons_of_neg (by simp [h c rfl])

lemma readRow_append (h : IsRow cs) (hrest : EndsRow rest) :
    readRow (cs ++ rest) = some (cs, rest) := by
  rw [readRow, List.takeWhile_append_of_pos h.2, List.dropWhile_append_of_pos h.2,
    takeWhile_isDigit hrest, dropWhile_isDigit hrest]
  simp [h.1]

lemma readWhole_append (h : IsWholePart cs) (hrest : EndsRow rest) :
    readWhole (cs ++ rest) = some (cs, rest) := by
  cases h with
  | zero =>
    cases rest with
    | nil => rfl
    | cons c rest => simp [readWhole, hrest c rfl]
  | row hc h =>
    rw [List.cons_append, readWhole, ← List.cons_append, readRow_append h hrest]
    rintro rest ⟨rfl, -⟩
    exact hc rfl

lemma readFraction_append (h : IsFraction cs) (hrow : EndsRow rest)
    (hpoint : ∀ c ∈ rest.head?, c ≠ '.') : readFraction (cs ++ rest) = some (cs, rest) := by
  cases h with
  | none =>
    rw [List.nil_append, readFraction]
    rintro rest rfl
    exact hpoint '.' rfl rfl
  | point h => simp [readFraction, readRow_append h hrow]

lemma readExponent_append (h : IsExponent cs) (hrest : EndsNumber rest) :
    readExponent (cs ++ rest) = some (cs, rest) := by
  cases h with
  | none =>
    cases rest with
    | nil => rfl
    | cons c rest =>
      obtain ⟨-, -, he, hE⟩ := hrest c rfl
      simp [readExponent, he, hE]
  | @plain e ds he h =>
    obtain ⟨d, ds, rfl⟩ := List.exists_cons_of_ne_nil h.1
    have hsign : ¬(d = '+' ∨ d = '-') := by
      rintro (rfl | rfl) <;> cases h.2 _ List.mem_cons_self
    have hrow := readRow_append h hrest.endsRow
    rw [List.cons_append] at hrow
    simp [readExponent, he, hsign, hrow]
  | signed he hs h => simp [readExponent, he, hs, readRow_append h hrest.endsRow]

/-- A fraction and an exponent start with no digit. -/
lemma endsRow_fraction {fraction exponent : List Char} (hfraction : IsFraction fraction)
    (hexponent : EndsRow (exponent ++ rest)) : EndsRow (fraction ++ exponent ++ rest) := by
  cases hfraction with
  | none => exact hexponent
  | point => exact endsRow_cons rfl _

lemma endsRow_exponent (h : IsExponent cs) (hrest : EndsNumber rest) : EndsRow (cs ++ rest) := by
  cases h with
  | none => exact hrest.endsRow
  | plain he | signed he => rcases he with rfl | rfl <;> exact endsRow_cons rfl _

lemma head_exponent_ne (h : IsExponent cs) (hrest : EndsNumber rest) :
    ∀ c ∈ (cs ++ rest).head?, c ≠ '.' := by
  intro c hc
  cases h with
  | none => exact (hrest c hc).2.1
  | plain he | signed he =>
    obtain rfl := Option.some.inj hc
    rcases he with rfl | rfl <;> decide

lemma IsWholePart.exists_digit (h : IsWholePart cs) :
    ∃ c rest, cs = c :: rest ∧ isDigit c = true := by
  cases h with
  | zero => exact ⟨'0', [], rfl, rfl⟩
  | row _ h => exact ⟨_, _, rfl, h.2 _ List.mem_cons_self⟩

lemma readNumber_append (h : IsNumber cs) (hrest : EndsNumber rest) :
    readNumber (cs ++ rest) = some (cs, rest) := by
  cases h with
  | @plain whole fraction exponent hwhole hfraction hexponent =>
    have hafter := endsRow_exponent hexponent hrest
    have hread := readWhole_append hwhole (endsRow_fraction hfraction hafter)
    obtain ⟨c, ds, rfl, hc⟩ := hwhole.exists_digit
    simp only [List.append_assoc, List.cons_append] at hread ⊢
    rw [readNumber]
    · simp [hread, readFraction_append hfraction hafter (head_exponent_ne hexponent hrest),
        readExponent_append hexponent hrest]
    · rintro rest ⟨⟩
      cases hc
  | @minus whole fraction exponent hwhole hfraction hexponent =>
    have hafter := endsRow_exponent hexponent hrest
    have hread := readWhole_append hwhole (endsRow_fraction hfraction hafter)
    simp only [List.append_assoc] at hread
    simp [readNumber, hread, readExponent_append hexponent hrest,
      readFraction_append hfraction hafter (head_exponent_ne hexponent hrest)]

/-! ### Values -/

/-- With this fuel the reader finds the part at the start of the text and leaves the rest. -/
def Finds (fuel : ℕ) : Part → List Char → List Char → Prop
  | .value v, text, rest => readValue fuel text = some (v, rest)
  | .items vs, text, rest => readItems fuel text = some (vs, rest)
  | .members ms, text, rest => readMembers fuel text = some (ms, rest)

lemma endsNumber_cons {c : Char} (hc : c ∈ [' ', '\t', '\n', '\r', ',', ']', '}'])
    (rest : List Char) : EndsNumber (c :: rest) := by
  have hall : ∀ d ∈ [' ', '\t', '\n', '\r', ',', ']', '}'],
      isDigit d = false ∧ d ≠ '.' ∧ d ≠ 'e' ∧ d ≠ 'E' := by
    simp only [List.forall_mem_cons, List.not_mem_nil, false_implies, implies_true, and_true]
    decide
  intro d hd
  obtain rfl := Option.some.inj hd
  exact hall c hc

/-- What follows a value inside another ends every number. -/
lemma endsNumber_gap (h : IsGap gap) {c : Char} (hc : c ∈ [',', ']', '}']) (rest : List Char) :
    EndsNumber (gap ++ c :: rest) := by
  cases gap with
  | nil => exact endsNumber_cons (by simp at hc ⊢; tauto) rest
  | cons e gap =>
    have he := h e List.mem_cons_self
    exact endsNumber_cons (by simp at he ⊢; tauto) _

lemma endsNumber_of_isGap (h : IsGap gap) : EndsNumber gap := by
  cases gap with
  | nil => rintro c ⟨⟩
  | cons e gap =>
    have he := h e List.mem_cons_self
    exact endsNumber_cons (by simp at he ⊢; tauto) gap

lemma isSpace_eq_false_of_isDigit {c : Char} (h : isDigit c = true) : isSpace c = false := by
  rw [Bool.eq_false_iff]
  intro hspace
  simp only [isSpace, Bool.or_eq_true, beq_iff_eq] at hspace
  rcases hspace with ((rfl | rfl) | rfl) | rfl <;> cases h

/-- A value starts with a character that is neither white space nor the end of an array. -/
lemma Written.exists_start {v : Json} (h : Written (.value v) cs) :
    ∃ c rest, cs = c :: rest ∧ isSpace c = false ∧ c ≠ ']' := by
  cases h with
  | number h =>
    cases h with
    | plain hwhole =>
      obtain ⟨c, ds, rfl, hc⟩ := hwhole.exists_digit
      refine ⟨c, _, rfl, isSpace_eq_false_of_isDigit hc, ?_⟩
      rintro rfl
      cases hc
    | minus => exact ⟨'-', _, rfl, rfl, by decide⟩
  | _ => exact ⟨_, _, rfl, rfl, by decide⟩

lemma skipSpace_skipSpace (cs : List Char) : skipSpace (skipSpace cs) = skipSpace cs :=
  List.dropWhile_idempotent _ cs

lemma readValue_skipSpace (fuel : ℕ) (cs : List Char) :
    readValue fuel (skipSpace cs) = readValue fuel cs := by
  cases fuel with
  | zero => rfl
  | succ fuel => rw [readValue, readValue, skipSpace_skipSpace]

lemma readItems_skipSpace (fuel : ℕ) (cs : List Char) :
    readItems fuel (skipSpace cs) = readItems fuel cs := by
  cases fuel with
  | zero => rfl
  | succ fuel => rw [readItems, readItems, readValue_skipSpace]

lemma readMembers_skipSpace (fuel : ℕ) (cs : List Char) :
    readMembers fuel (skipSpace cs) = readMembers fuel cs := by
  cases fuel with
  | zero => rfl
  | succ fuel => rw [readMembers, readMembers, skipSpace_skipSpace]

/-- The text is read from its start, whatever white space is in front of it. -/
lemma readValue_gap (h : IsGap gap) (fuel : ℕ) (cs : List Char) :
    readValue fuel (gap ++ cs) = readValue fuel cs := by
  rw [← readValue_skipSpace, skipSpace_append h, readValue_skipSpace]

lemma skipSpace_gap (h : IsGap gap) {c : Char} (hc : isSpace c = false) (rest : List Char) :
    skipSpace (gap ++ c :: rest) = c :: rest := by
  rw [skipSpace_append h, skipSpace_cons hc]

lemma IsNumber.exists_start (h : IsNumber cs) :
    ∃ c rest, cs = c :: rest ∧ (isDigit c = true ∨ c = '-') := by
  cases h with
  | plain hwhole =>
    obtain ⟨c, ds, rfl, hc⟩ := hwhole.exists_digit
    exact ⟨c, _, rfl, .inl hc⟩
  | minus => exact ⟨'-', _, rfl, .inr rfl⟩

/-- A number is read as one: it starts like no other value. -/
lemma readValue_number (h : IsNumber cs) (hrest : EndsNumber rest) (fuel : ℕ) :
    readValue (fuel + 1) (cs ++ rest) = some (.number cs, rest) := by
  have hread := readNumber_append h hrest
  obtain ⟨c, ds, rfl, hc⟩ := h.exists_start
  have hspace : isSpace c = false := by
    rcases hc with hc | rfl
    · exact isSpace_eq_false_of_isDigit hc
    · rfl
  have hother : ∀ d ∈ ['n', 't', 'f', '"', '[', '{'], c ≠ d := by
    have hdigit : ∀ d ∈ ['n', 't', 'f', '"', '[', '{'], isDigit d = false ∧ d ≠ '-' := by
      simp only [List.forall_mem_cons, List.not_mem_nil, false_implies, implies_true, and_true]
      decide
    rintro d hd rfl
    rcases hc with hc | rfl
    · rw [(hdigit c hd).1] at hc
      cases hc
    · exact (hdigit '-' hd).2 rfl
  rw [List.cons_append] at hread ⊢
  rw [readValue, skipSpace_cons hspace]
  split
  all_goals
    first
    | rw [hread, Option.map_some]
    | next heq => exact absurd (List.cons.inj heq).1 (hother _ (by simp))

lemma readValue_string (h : IsSpelling cs) (rest : List Char) (fuel : ℕ) :
    readValue (fuel + 1) (quoted cs ++ rest) = some (.string cs, rest) := by
  have hquoted : quoted cs ++ rest = '"' :: (cs ++ '"' :: rest) := by simp [quoted]
  rw [hquoted, readValue, skipSpace_cons rfl]
  simp [readSpelling_append h]

lemma readValue_array {vs : List Json} {c : Char} (hgap : IsGap gap) (hc : isSpace c = false)
    (hclose : c ≠ ']') (h : readItems fuel (gap ++ c :: cs) = some (vs, rest)) :
    readValue (fuel + 1) ('[' :: (gap ++ c :: cs)) = some (.array vs, rest) := by
  have hskip := skipSpace_gap hgap hc cs
  rw [← readItems_skipSpace, hskip] at h
  rw [readValue, skipSpace_cons rfl]
  simp only [hskip]
  split
  · next heq => exact absurd (List.cons.inj heq).1 hclose
  · rw [h, Option.map_some]

lemma readValue_object {ms : List (List Char × Json)} (hgap : IsGap gap)
    (h : readMembers fuel (gap ++ '"' :: cs) = some (ms, rest)) :
    readValue (fuel + 1) ('{' :: (gap ++ '"' :: cs)) = some (.object ms, rest) := by
  have hskip := skipSpace_gap hgap (show isSpace '"' = false from rfl) cs
  rw [← readMembers_skipSpace, hskip] at h
  rw [readValue, skipSpace_cons rfl]
  simp [hskip, h]

lemma readItems_last {v : Json} {gap' : List Char} (hgap : IsGap gap) (hgap' : IsGap gap')
    (h : readValue fuel cs = some (v, gap' ++ ']' :: rest)) :
    readItems (fuel + 1) (gap ++ cs) = some ([v], rest) := by
  rw [readItems, readValue_gap hgap, h]
  simp [skipSpace_gap hgap' (show isSpace ']' = false from rfl)]

lemma readItems_cons {v : Json} {vs : List Json} {gap' others : List Char} (hgap : IsGap gap)
    (hgap' : IsGap gap') (h : readValue fuel cs = some (v, gap' ++ ',' :: others))
    (hothers : readItems fuel others = some (vs, rest)) :
    readItems (fuel + 1) (gap ++ cs) = some (v :: vs, rest) := by
  rw [readItems, readValue_gap hgap, h]
  simp [skipSpace_gap hgap' (show isSpace ',' = false from rfl), hothers]

lemma keyed_append (gap key gap' cs : List Char) :
    keyed gap key gap' ++ cs = gap ++ '"' :: (key ++ '"' :: (gap' ++ ':' :: cs)) := by
  simp [keyed, quoted]

lemma readMembers_last {key gap' gap₂ gap₃ : List Char} {v : Json} (hgap : IsGap gap)
    (hkey : IsSpelling key) (hgap' : IsGap gap') (hgap₂ : IsGap gap₂) (hgap₃ : IsGap gap₃)
    (h : readValue fuel cs = some (v, gap₃ ++ '}' :: rest)) :
    readMembers (fuel + 1) (keyed gap key gap' ++ (gap₂ ++ cs)) = some ([(key, v)], rest) := by
  rw [keyed_append, readMembers, skipSpace_gap hgap rfl]
  simp [readSpelling_append hkey, skipSpace_gap hgap' (show isSpace ':' = false from rfl),
    readValue_gap hgap₂, h, skipSpace_gap hgap₃ (show isSpace '}' = false from rfl)]

lemma readMembers_cons {key gap' gap₂ gap₃ others : List Char} {v : Json}
    {ms : List (List Char × Json)} (hgap : IsGap gap) (hkey : IsSpelling key) (hgap' : IsGap gap')
    (hgap₂ : IsGap gap₂) (hgap₃ : IsGap gap₃)
    (h : readValue fuel cs = some (v, gap₃ ++ ',' :: others))
    (hothers : readMembers fuel others = some (ms, rest)) :
    readMembers (fuel + 1) (keyed gap key gap' ++ (gap₂ ++ cs)) = some ((key, v) :: ms, rest) := by
  rw [keyed_append, readMembers, skipSpace_gap hgap rfl]
  simp [readSpelling_append hkey, skipSpace_gap hgap' (show isSpace ':' = false from rfl),
    readValue_gap hgap₂, h, skipSpace_gap hgap₃ (show isSpace ',' = false from rfl), hothers]

/-! ### The whole text -/

lemma Written.exists_items_start {vs : List Json} (h : Written (.items vs) cs) :
    ∃ gap c rest, IsGap gap ∧ isSpace c = false ∧ c ≠ ']' ∧ cs = gap ++ c :: rest := by
  cases h with
  | lastItem hgap h | item hgap h =>
    obtain ⟨c, ds, rfl, hc, hclose⟩ := h.exists_start
    exact ⟨_, c, _, hgap, hc, hclose, by simp; rfl⟩

lemma Written.exists_members_start {ms : List (List Char × Json)} (h : Written (.members ms) cs) :
    ∃ gap rest, IsGap gap ∧ cs = gap ++ '"' :: rest := by
  cases h with
  | lastMember hgap | member hgap => exact ⟨_, _, hgap, by simp [keyed, quoted]; rfl⟩

lemma finds_of_written {part : Part} (h : Written part cs) (fuel : ℕ)
    (hfuel : 2 * cs.length ≤ fuel) (hrest : EndsNumber rest) :
    Finds fuel part (cs ++ rest) rest := by
  induction h generalizing fuel rest with
  | null | boolTrue | boolFalse =>
    obtain ⟨fuel, rfl⟩ := Nat.exists_eq_add_of_le' hfuel
    rfl
  | number h =>
    obtain ⟨c, ds, rfl, -⟩ := h.exists_start
    obtain ⟨fuel, rfl⟩ := Nat.exists_eq_add_of_le' (show 1 ≤ fuel by simp at hfuel; omega)
    exact readValue_number h hrest fuel
  | string h =>
    obtain ⟨fuel, rfl⟩ := Nat.exists_eq_add_of_le' (show 1 ≤ fuel by simp [quoted] at hfuel; omega)
    exact readValue_string h rest fuel
  | noItems hgap =>
    obtain ⟨fuel, rfl⟩ := Nat.exists_eq_add_of_le' (show 1 ≤ fuel by simp at hfuel; omega)
    simp [Finds, readValue, skipSpace_cons (show isSpace '[' = false from rfl),
      skipSpace_gap hgap (show isSpace ']' = false from rfl)]
  | array h ih =>
    obtain ⟨fuel, rfl⟩ := Nat.exists_eq_add_of_le' (show 1 ≤ fuel by simp at hfuel; omega)
    have hitems := ih fuel (by simp at hfuel; omega) hrest
    obtain ⟨gap, c, ds, hgap, hc, hclose, rfl⟩ := h.exists_items_start
    simp only [List.append_assoc, List.cons_append, Finds] at hitems ⊢
    exact readValue_array hgap hc hclose hitems
  | lastItem hgap _ hgap' ih =>
    obtain ⟨fuel, rfl⟩ := Nat.exists_eq_add_of_le' (show 1 ≤ fuel by simp at hfuel; omega)
    have hvalue := ih fuel (by simp at hfuel; omega)
      (endsNumber_gap hgap' (show ']' ∈ _ by simp) rest)
    simpa [Finds] using readItems_last hgap hgap' hvalue
  | @item _ _ _ _ _ others hgap _ hgap' _ ih ihrest =>
    obtain ⟨fuel, rfl⟩ := Nat.exists_eq_add_of_le' (show 1 ≤ fuel by simp at hfuel; omega)
    have hvalue := ih fuel (by simp at hfuel; omega)
      (endsNumber_gap hgap' (show ',' ∈ _ by simp) (others ++ rest))
    have hothers := ihrest fuel (by simp at hfuel; omega) hrest
    simpa [Finds] using readItems_cons hgap hgap' hvalue hothers
  | noMembers hgap =>
    obtain ⟨fuel, rfl⟩ := Nat.exists_eq_add_of_le' (show 1 ≤ fuel by simp at hfuel; omega)
    simp [Finds, readValue, skipSpace_cons (show isSpace '{' = false from rfl),
      skipSpace_gap hgap (show isSpace '}' = false from rfl)]
  | object h ih =>
    obtain ⟨fuel, rfl⟩ := Nat.exists_eq_add_of_le' (show 1 ≤ fuel by simp at hfuel; omega)
    have hmembers := ih fuel (by simp at hfuel; omega) hrest
    obtain ⟨gap, ds, hgap, rfl⟩ := h.exists_members_start
    simp only [List.append_assoc, List.cons_append, Finds] at hmembers ⊢
    exact readValue_object hgap hmembers
  | lastMember hgap hkey hgap' hgap₂ _ hgap₃ ih =>
    obtain ⟨fuel, rfl⟩ := Nat.exists_eq_add_of_le' (show 1 ≤ fuel by simp at hfuel; omega)
    have hvalue := ih fuel (by simp at hfuel; omega)
      (endsNumber_gap hgap₃ (show '}' ∈ _ by simp) rest)
    simpa [Finds] using readMembers_last hgap hkey hgap' hgap₂ hgap₃ hvalue
  | @member _ _ _ _ _ _ _ _ others hgap hkey hgap' hgap₂ _ hgap₃ _ ih ihrest =>
    obtain ⟨fuel, rfl⟩ := Nat.exists_eq_add_of_le' (show 1 ≤ fuel by simp at hfuel; omega)
    have hvalue := ih fuel (by simp at hfuel; omega)
      (endsNumber_gap hgap₃ (show ',' ∈ _ by simp) (others ++ rest))
    have hothers := ihrest fuel (by simp at hfuel; omega) hrest
    simpa [Finds] using readMembers_cons hgap hkey hgap' hgap₂ hgap₃ hvalue hothers

/-- What the grammar says of a text is what is read from it. -/
theorem read?_of_isText {text : String} {v : Json} (h : IsText text v) : read? text = some v := by
  obtain ⟨gap, cs, gap', hgap, hcs, hgap', htext⟩ := h
  have hfound : Finds _ (.value v) (cs ++ gap') gap' :=
    finds_of_written hcs (2 * text.toList.length + 2) (by simp [htext]; omega)
      (endsNumber_of_isGap hgap')
  have hread := readValue_gap hgap (2 * text.toList.length + 2) (cs ++ gap')
  rw [hfound, ← List.append_assoc, ← htext] at hread
  simp only [read?, hread, skipSpace_eq_nil hgap', List.isEmpty_nil, if_true]

/-- A text is the text of one value only. -/
theorem IsText.eq {text : String} {v v' : Json} (h : IsText text v) (h' : IsText text v') :
    v = v' :=
  Option.some.inj ((read?_of_isText h).symm.trans (read?_of_isText h'))

end ClipboardWatchdog.Json
