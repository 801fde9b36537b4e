import ClipboardWatchdog.Json.Writer
import ClipboardWatchdog.Proofs.Text.Digits
import Mathlib.Data.List.Induction

/-!
# The grammar of JSON

What a JSON text is, apart from any way of reading it: `Json.IsText text v` says that the text is
the value `v` with white space around it. Values keep their numbers and strings as spelled, so the
grammar says which spellings there are; what a string spells is another relation.

An array after its opening bracket and an object after its opening brace are texts of their own, so
one relation covers values, items and members, and proofs go by one induction.
-/

namespace ClipboardWatchdog.Json

open Text

/-! ### White space, strings and numbers -/

/-- A row of characters that may stand between the parts of a text. -/
def IsGap (cs : List Char) : Prop := ∀ c ∈ cs, c ∈ [' ', '\t', '\n', '\r']

lemma isGap_nil : IsGap [] := by simp [IsGap]

/-- The letters of the escapes that have one letter, with what they stand for. -/
def shortEscapes : List (Char × Char) :=
  [('"', '"'), ('\\', '\\'), ('/', '/'), ('b', Char.ofNat 8), ('f', Char.ofNat 12), ('n', '\n'),
    ('r', '\r'), ('t', '\t')]

lemma mem_shortEscapes_iff {e c : Char} : (e, c) ∈ shortEscapes ↔ shortEscape? e = some c := by
  constructor
  · have hall : ∀ pair ∈ shortEscapes, shortEscape? pair.1 = some pair.2 := by decide
    exact hall (e, c)
  · intro h
    unfold shortEscape? at h
    split_ifs at h with hself hn hr ht hb hf
    · obtain rfl := Option.some.inj h
      rcases hself with rfl | rfl | rfl <;> decide
    · obtain rfl := Option.some.inj h
      rw [hn]
      decide
    · obtain rfl := Option.some.inj h
      rw [hr]
      decide
    · obtain rfl := Option.some.inj h
      rw [ht]
      decide
    · obtain rfl := Option.some.inj h
      rw [hb]
      decide
    · obtain rfl := Option.some.inj h
      rw [hf]
      decide

/-- What may stand between the quotes of a string. -/
inductive IsSpelling : List Char → Prop
  | nil : IsSpelling []
  | plain {c : Char} {cs : List Char} (hprint : 32 ≤ c.toNat) (hquote : c ≠ '"')
    (hslash : c ≠ '\\') (h : IsSpelling cs) : IsSpelling (c :: cs)
  | short {e c : Char} {cs : List Char} (he : (e, c) ∈ shortEscapes) (h : IsSpelling cs) :
    IsSpelling ('\\' :: e :: cs)
  | unit {a b c d : Char} {n : ℕ} {cs : List Char} (hunit : hexUnit? a b c d = some n)
    (h : IsSpelling cs) : IsSpelling ('\\' :: 'u' :: a :: b :: c :: d :: cs)

/-- A row of digits, at least one. -/
def IsRow (cs : List Char) : Prop := cs ≠ [] ∧ ∀ c ∈ cs, isDigit c = true

/-- The whole part of a number has no zero in front. -/
inductive IsWholePart : List Char → Prop
  | zero : IsWholePart ['0']
  | row {c : Char} {cs : List Char} (hc : c ≠ '0') (h : IsRow (c :: cs)) : IsWholePart (c :: cs)

inductive IsFraction : List Char → Prop
  | none : IsFraction []
  | point {cs : List Char} (h : IsRow cs) : IsFraction ('.' :: cs)

inductive IsExponent : List Char → Prop
  | none : IsExponent []
  | plain {e : Char} {cs : List Char} (he : e = 'e' ∨ e = 'E') (h : IsRow cs) :
    IsExponent (e :: cs)
  | signed {e s : Char} {cs : List Char} (he : e = 'e' ∨ e = 'E') (hs : s = '+' ∨ s = '-')
    (h : IsRow cs) : IsExponent (e :: s :: cs)

inductive IsNumber : List Char → Prop
  | plain {whole fraction exponent : List Char} (hwhole : IsWholePart whole)
    (hfraction : IsFraction fraction) (hexponent : IsExponent exponent) :
    IsNumber (whole ++ fraction ++ exponent)
  | minus {whole fraction exponent : List Char} (hwhole : IsWholePart whole)
    (hfraction : IsFraction fraction) (hexponent : IsExponent exponent) :
    IsNumber ('-' :: whole ++ fraction ++ exponent)

/-! ### Values -/

/-- A part of a text: a value; the items of an array with the bracket that closes it, at least one
item; or the members of an object with the brace that closes it, at least one member. -/
inductive Part
  | value (v : Json)
  | items (vs : List Json)
  | members (ms : List (List Char × Json))

/-- A member up to its value: white space, the key, white space and the colon. -/
def keyed (gap key gap' : List Char) : List Char := gap ++ quoted key ++ gap' ++ [':']

/-- The characters are the part, without white space around a value. -/
inductive Written : Part → List Char → Prop
  | null : Written (.value .null) ['n', 'u', 'l', 'l']
  | boolTrue : Written (.value (.bool true)) ['t', 'r', 'u', 'e']
  | boolFalse : Written (.value (.bool false)) ['f', 'a', 'l', 's', 'e']
  | number {cs : List Char} (h : IsNumber cs) : Written (.value (.number cs)) cs
  | string {cs : List Char} (h : IsSpelling cs) : Written (.value (.string cs)) (quoted cs)
  | noItems {gap : List Char} (hgap : IsGap gap) :
      Written (.value (.array [])) ('[' :: gap ++ [']'])
  | array {vs : List Json} {cs : List Char} (h : Written (.items vs) cs) :
    Written (.value (.array vs)) ('[' :: cs)
  | lastItem {v : Json} {gap cs gap' : List Char} (hgap : IsGap gap) (h : Written (.value v) cs)
    (hgap' : IsGap gap') : Written (.items [v]) (gap ++ cs ++ gap' ++ [']'])
  | item {v : Json} {vs : List Json} {gap cs gap' rest : List Char} (hgap : IsGap gap)
    (h : Written (.value v) cs) (hgap' : IsGap gap') (hrest : Written (.items vs) rest) :
    Written (.items (v :: vs)) (gap ++ cs ++ gap' ++ ',' :: rest)
  | noMembers {gap : List Char} (hgap : IsGap gap) :
    Written (.value (.object [])) ('{' :: gap ++ ['}'])
  | object {ms : List (List Char × Json)} {cs : List Char} (h : Written (.members ms) cs) :
    Written (.value (.object ms)) ('{' :: cs)
  | lastMember {key : List Char} {v : Json} {gap gap' gap₂ cs gap₃ : List Char} (hgap : IsGap gap)
    (hkey : IsSpelling key) (hgap' : IsGap gap') (hgap₂ : IsGap gap₂) (h : Written (.value v) cs)
    (hgap₃ : IsGap gap₃) :
    Written (.members [(key, v)]) (keyed gap key gap' ++ gap₂ ++ cs ++ gap₃ ++ ['}'])
  | member {key : List Char} {v : Json} {ms : List (List Char × Json)}
    {gap gap' gap₂ cs gap₃ rest : List Char} (hgap : IsGap gap) (hkey : IsSpelling key)
    (hgap' : IsGap gap') (hgap₂ : IsGap gap₂) (h : Written (.value v) cs) (hgap₃ : IsGap gap₃)
    (hrest : Written (.members ms) rest) :
    Written (.members ((key, v) :: ms)) (keyed gap key gap' ++ gap₂ ++ cs ++ gap₃ ++ ',' :: rest)

/-- The text is the value with white space around it. -/
def IsText (text : String) (v : Json) : Prop :=
  ∃ gap cs gap', IsGap gap ∧ Written (.value v) cs ∧ IsGap gap' ∧ text.toList = gap ++ cs ++ gap'

/-! ### What the parts of a text are made of -/

/-- The spelling is one that a text can have. For an array or an object nothing is asked. -/
def IsWellSpelled : Json → Prop
  | .number cs => IsNumber cs
  | .string cs => IsSpelling cs
  | _ => True

def Part.IsWellSpelled : Part → Prop
  | .value v => v.IsWellSpelled
  | .items _ => True
  | .members ms => ∀ m ∈ ms, m.2.IsWellSpelled

lemma Written.isWellSpelled {part : Part} {cs : List Char} (h : Written part cs) :
    part.IsWellSpelled := by
  induction h with
  | number h => exact h
  | string h => exact h
  | lastMember _ _ _ _ _ _ ih =>
    intro m hm
    obtain rfl := List.mem_singleton.mp hm
    exact ih
  | member _ _ _ _ _ _ _ ih ihrest =>
    intro m hm
    rcases List.mem_cons.mp hm with rfl | hm
    · exact ih
    · exact ihrest m hm
  | _ => trivial

lemma IsText.isWellSpelled_of_mem {text : String} {ms : List (List Char × Json)}
    (h : IsText text (.object ms)) {m : List Char × Json} (hm : m ∈ ms) : m.2.IsWellSpelled := by
  obtain ⟨-, cs, -, -, hcs, -, -⟩ := h
  cases hcs with
  | noMembers => cases hm
  | object h => exact h.isWellSpelled m hm

/-! ### Numbers of digits only -/

lemma isRow_digits (n : ℕ) : IsRow (digits n) :=
  ⟨digits_ne_nil n, fun _ => isDigit_of_mem_digits⟩

lemma isWholePart_digits (n : ℕ) : IsWholePart (digits n) := by
  by_cases hn : n = 0
  · rw [hn, digits, if_pos (by decide)]
    exact .zero
  · obtain ⟨c, cs, heq, hc⟩ := exists_digits_eq_cons hn
    have hrow := isRow_digits n
    rw [heq] at hrow ⊢
    exact .row hc hrow

lemma isNumber_digits (n : ℕ) : IsNumber (digits n) := by
  simpa using IsNumber.plain (isWholePart_digits n) .none .none

lemma IsExponent.eq_nil {cs : List Char} (h : IsExponent cs)
    (hdigits : ∀ c ∈ cs, isDigit c = true) : cs = [] := by
  cases h with
  | none => rfl
  | plain he =>
    have hdigit := hdigits _ List.mem_cons_self
    rcases he with rfl | rfl <;> cases hdigit
  | signed he =>
    have hdigit := hdigits _ List.mem_cons_self
    rcases he with rfl | rfl <;> cases hdigit

lemma IsFraction.eq_nil {cs : List Char} (h : IsFraction cs)
    (hdigits : ∀ c ∈ cs, isDigit c = true) : cs = [] := by
  cases h with
  | none => rfl
  | point => cases hdigits '.' List.mem_cons_self

lemma IsWholePart.eq_digits {cs : List Char} (h : IsWholePart cs) : cs = digits (ofDigits cs) := by
  cases h with
  | zero => rw [show ofDigits ['0'] = 0 from rfl, digits, if_pos (by decide)]; rfl
  | row hc h => exact (digits_ofDigits hc h.2).symm

/-- A number that is spelled with digits only is the usual spelling of a whole number. -/
lemma IsNumber.eq_digits {cs : List Char} (h : IsNumber cs) (hdigits : ∀ c ∈ cs, isDigit c = true) :
    cs = digits (ofDigits cs) := by
  cases h with
  | plain hwhole hfraction hexponent =>
    obtain rfl := hfraction.eq_nil fun c hc => hdigits c (by simp [hc])
    obtain rfl := hexponent.eq_nil fun c hc => hdigits c (by simp [hc])
    simpa using hwhole.eq_digits
  | minus => cases hdigits '-' (by simp)

/-! ### The layout of the writer -/

lemma written_prettyMembers {ms : List (List Char × Json)} (hms : ms ≠ [])
    (h : ∀ m ∈ ms, IsSpelling m.1 ∧ Written (.value m.2) (compactChars m.2)) :
    Written (.members ms) ('\n' :: prettyMembers ms) := by
  have hindent : IsGap ['\n', ' ', ' '] := by simp [IsGap]
  have hspace : IsGap [' '] := by simp [IsGap]
  have hbreak : IsGap ['\n'] := by simp [IsGap]
  induction ms with
  | nil => exact absurd rfl hms
  | cons m ms ih =>
    obtain ⟨key, v⟩ := m
    obtain ⟨hkey, hv⟩ := h _ List.mem_cons_self
    cases ms with
    | nil =>
      simpa [prettyMembers, keyed] using Written.lastMember hindent hkey isGap_nil hspace hv hbreak
    | cons m' ms =>
      have hrest := ih (by simp) fun m hm => h m (List.mem_cons_of_mem _ hm)
      simpa [prettyMembers, keyed] using
        Written.member hindent hkey isGap_nil hspace hv isGap_nil hrest

/-- An object with members is written so that it is a text of the grammar. -/
lemma isText_pretty {ms : List (List Char × Json)} (hms : ms ≠ [])
    (h : ∀ m ∈ ms, IsSpelling m.1 ∧ Written (.value m.2) (compactChars m.2)) :
    IsText (pretty ms) (.object ms) :=
  ⟨[], _, [], isGap_nil, .object (written_prettyMembers hms h), isGap_nil, by simp [pretty]⟩

end ClipboardWatchdog.Json
