import ClipboardWatchdog.Proofs.Json.Reading

/-!
# Only texts of the grammar are read

Whatever the reader gives, it has read it from a text of the grammar, so that being read is being a
text of the grammar.
-/

namespace ClipboardWatchdog.Json

open Text

variable {cs rest s : List Char} {fuel : ℕ}

/-- White space is passed over as far as it goes. -/
lemma exists_gap (cs : List Char) : ∃ gap, IsGap gap ∧ cs = gap ++ skipSpace cs := by
  refine ⟨cs.takeWhile isSpace, fun c hc => ?_, List.takeWhile_append_dropWhile.symm⟩
  have hspace := List.mem_takeWhile_imp hc
  simp only [isSpace, Bool.or_eq_true, beq_iff_eq] at hspace
  rcases hspace with ((rfl | rfl) | rfl) | rfl <;> decide

/-! ### Strings and numbers -/

lemma isSpelling_of_readSpelling (h : readSpelling cs = some (s, rest)) :
    cs = s ++ '"' :: rest ∧ IsSpelling s := by
  fun_induction readSpelling cs generalizing s with
  | case2 a b c d _ hunit ih =>
    obtain ⟨n, hn⟩ := Option.isSome_iff_exists.mp hunit
    obtain ⟨⟨s, r⟩, hread, ⟨⟩⟩ := Option.map_eq_some_iff.mp h
    obtain ⟨rfl, hs⟩ := ih hread
    exact ⟨rfl, .unit hn hs⟩
  | case4 e _ _ he ih =>
    obtain ⟨c, hc⟩ := Option.isSome_iff_exists.mp he
    obtain ⟨⟨s, r⟩, hread, ⟨⟩⟩ := Option.map_eq_some_iff.mp h
    obtain ⟨rfl, hs⟩ := ih hread
    exact ⟨rfl, .short (mem_shortEscapes_iff.mpr hc) hs⟩
  | case6 =>
    obtain ⟨rfl, rfl⟩ := Prod.mk.inj (Option.some.inj h)
    exact ⟨rfl, .nil⟩
  | case8 c _ _ _ hquote hplain ih =>
    obtain ⟨⟨s, r⟩, hread, ⟨⟩⟩ := Option.map_eq_some_iff.mp h
    obtain ⟨rfl, hs⟩ := ih hread
    push Not at hplain
    exact ⟨rfl, .plain hplain.2 hquote hplain.1 hs⟩
  | _ => cases h

lemma isRow_of_readRow (h : readRow cs = some (s, rest)) : cs = s ++ rest ∧ IsRow s := by
  simp only [readRow] at h
  split at h
  · cases h
  · next hrow =>
    obtain ⟨rfl, rfl⟩ := Prod.mk.inj (Option.some.inj h)
    exact ⟨List.takeWhile_append_dropWhile.symm, by simpa using hrow,
      fun c hc => List.mem_takeWhile_imp hc⟩

lemma isWholePart_of_readWhole (h : readWhole cs = some (s, rest)) :
    cs = s ++ rest ∧ IsWholePart s := by
  unfold readWhole at h
  split at h
  · split at h
    · split at h
      · cases h
      · obtain ⟨rfl, rfl⟩ := Prod.mk.inj (Option.some.inj h)
        exact ⟨rfl, .zero⟩
    · obtain ⟨rfl, rfl⟩ := Prod.mk.inj (Option.some.inj h)
      exact ⟨rfl, .zero⟩
  · next hzero =>
    obtain ⟨rfl, hrow⟩ := isRow_of_readRow h
    obtain ⟨c, ds, rfl⟩ := List.exists_cons_of_ne_nil hrow.1
    refine ⟨rfl, .row ?_ hrow⟩
    rintro rfl
    exact hzero _ rfl

lemma isFraction_of_readFraction (h : readFraction cs = some (s, rest)) :
    cs = s ++ rest ∧ IsFraction s := by
  unfold readFraction at h
  split at h
  · obtain ⟨⟨row, r⟩, hread, ⟨⟩⟩ := Option.map_eq_some_iff.mp h
    obtain ⟨rfl, hrow⟩ := isRow_of_readRow hread
    exact ⟨rfl, .point hrow⟩
  · obtain ⟨rfl, rfl⟩ := Prod.mk.inj (Option.some.inj h)
    exact ⟨rfl, .none⟩

lemma isExponent_of_readExponent (h : readExponent cs = some (s, rest)) :
    cs = s ++ rest ∧ IsExponent s := by
  unfold readExponent at h
  split at h
  · split at h
    · next he =>
      split at h
      · split at h
        · next hsign =>
          obtain ⟨⟨row, r⟩, hread, ⟨⟩⟩ := Option.map_eq_some_iff.mp h
          obtain ⟨rfl, hrow⟩ := isRow_of_readRow hread
          exact ⟨rfl, .signed he hsign hrow⟩
        · obtain ⟨⟨row, r⟩, hread, ⟨⟩⟩ := Option.map_eq_some_iff.mp h
          obtain ⟨hcs, hrow⟩ := isRow_of_readRow hread
          exact ⟨by rw [hcs, List.cons_append], .plain he hrow⟩
      · cases h
    · obtain ⟨rfl, rfl⟩ := Prod.mk.inj (Option.some.inj h)
      exact ⟨rfl, .none⟩
  · obtain ⟨rfl, rfl⟩ := Prod.mk.inj (Option.some.inj h)
    exact ⟨rfl, .none⟩

lemma isNumber_of_readNumber (h : readNumber cs = some (s, rest)) :
    cs = s ++ rest ∧ IsNumber s := by
  simp only [readNumber, Option.bind_eq_bind, Option.bind_eq_some_iff] at h
  obtain ⟨⟨whole, cs₁⟩, hread, ⟨fraction, cs₂⟩, hread', ⟨exponent, cs₃⟩, hread'', heq⟩ := h
  obtain ⟨hcs, hwhole⟩ := isWholePart_of_readWhole hread
  obtain ⟨rfl, hfraction⟩ := isFraction_of_readFraction hread'
  obtain ⟨rfl, hexponent⟩ := isExponent_of_readExponent hread''
  obtain ⟨rfl, rfl⟩ := Prod.mk.inj (Option.some.inj heq)
  split at hcs
  · obtain rfl := hcs
    exact ⟨by simp, .minus hwhole hfraction hexponent⟩
  · obtain rfl := hcs
    exact ⟨by simp, .plain hwhole hfraction hexponent⟩

/-! ### Values -/

lemma of_readWord {word : List Char} {value v : Json}
    (h : readWord word value cs = some (v, rest)) : v = value ∧ cs = word ++ rest := by
  unfold readWord at h
  split at h
  · next hfront =>
    obtain ⟨rfl, rfl⟩ := Prod.mk.inj (Option.some.inj h)
    obtain ⟨t, rfl⟩ := List.isPrefixOf_iff_prefix.mp hfront
    exact ⟨rfl, by simp⟩
  · cases h

/-- The part is read from a text of the grammar; a value may have white space in front. -/
def Found : Part → List Char → List Char → Prop
  | .value v, cs, rest => ∃ gap body, IsGap gap ∧ Written (.value v) body ∧ cs = gap ++ body ++ rest
  | part, cs, rest => ∃ body, Written part body ∧ cs = body ++ rest

lemma found_value {v : Json} {text : List Char} (h : Written (.value v) text)
    (heq : skipSpace cs = text ++ rest) : Found (.value v) cs rest := by
  obtain ⟨gap, hgap, hcs⟩ := exists_gap cs
  exact ⟨gap, text, hgap, h, by rw [hcs, heq, List.append_assoc]⟩

lemma exists_gap_cons {c : Char} (h : skipSpace cs = c :: rest) :
    ∃ gap, IsGap gap ∧ cs = gap ++ c :: rest := by
  obtain ⟨gap, hgap, hcs⟩ := exists_gap cs
  exact ⟨gap, hgap, h ▸ hcs⟩

/-- What is read with this fuel is found. -/
def AllFound (fuel : ℕ) : Prop :=
  ∀ (part : Part) {cs rest : List Char}, Finds fuel part cs rest → Found part cs rest

lemma found_value_succ (ih : AllFound fuel) {v : Json}
    (h : Finds (fuel + 1) (.value v) cs rest) : Found (.value v) cs rest := by
  rw [Finds, readValue] at h
  split at h
  · next heq =>
    obtain ⟨rfl, hcs⟩ := of_readWord h
    exact found_value .null (heq.trans hcs)
  · next heq =>
    obtain ⟨rfl, hcs⟩ := of_readWord h
    exact found_value .boolTrue (heq.trans hcs)
  · next heq =>
    obtain ⟨rfl, hcs⟩ := of_readWord h
    exact found_value .boolFalse (heq.trans hcs)
  · next heq =>
    obtain ⟨⟨s, r⟩, hread, ⟨⟩⟩ := Option.map_eq_some_iff.mp h
    obtain ⟨rfl, hs⟩ := isSpelling_of_readSpelling hread
    exact found_value (.string hs) (by simp [heq, quoted])
  · next heq =>
    split at h
    · next hclose =>
      obtain ⟨gap, hgap, rfl⟩ := exists_gap_cons hclose
      cases h
      exact found_value (.noItems hgap) (by simp [heq])
    · obtain ⟨⟨vs, r⟩, hread, ⟨⟩⟩ := Option.map_eq_some_iff.mp h
      rw [readItems_skipSpace] at hread
      obtain ⟨body, hbody, rfl⟩ := ih (.items vs) hread
      exact found_value (.array hbody) heq
  · next heq =>
    split at h
    · next hclose =>
      obtain ⟨gap, hgap, rfl⟩ := exists_gap_cons hclose
      cases h
      exact found_value (.noMembers hgap) (by simp [heq])
    · obtain ⟨⟨ms, r⟩, hread, ⟨⟩⟩ := Option.map_eq_some_iff.mp h
      rw [readMembers_skipSpace] at hread
      obtain ⟨body, hbody, rfl⟩ := ih (.members ms) hread
      exact found_value (.object hbody) heq
  · obtain ⟨⟨s, r⟩, hread, ⟨⟩⟩ := Option.map_eq_some_iff.mp h
    obtain ⟨hcs, hs⟩ := isNumber_of_readNumber hread
    exact found_value (.number hs) hcs

lemma found_items_succ (ih : AllFound fuel) {vs : List Json}
    (h : Finds (fuel + 1) (.items vs) cs rest) : Found (.items vs) cs rest := by
  rw [Finds, readItems] at h
  split at h
  · cases h
  · next item others hread =>
    obtain ⟨gap, body, hgap, hbody, rfl⟩ := ih (.value item) hread
    split at h
    · next hclose =>
      obtain ⟨gap', hgap', rfl⟩ := exists_gap_cons hclose
      cases h
      exact ⟨_, .lastItem hgap hbody hgap', by simp⟩
    · next hcomma =>
      obtain ⟨gap', hgap', rfl⟩ := exists_gap_cons hcomma
      obtain ⟨⟨vs, r⟩, hread, ⟨⟩⟩ := Option.map_eq_some_iff.mp h
      obtain ⟨body', hbody', rfl⟩ := ih (.items vs) hread
      exact ⟨_, .item hgap hbody hgap' hbody', by simp⟩
    · cases h

lemma found_members_succ (ih : AllFound fuel) {ms : List (List Char × Json)}
    (h : Finds (fuel + 1) (.members ms) cs rest) : Found (.members ms) cs rest := by
  rw [Finds, readMembers] at h
  split at h
  · next hquote =>
    obtain ⟨gap, hgap, rfl⟩ := exists_gap_cons hquote
    split at h
    · cases h
    · next key others hspelling =>
      obtain ⟨rfl, hspelled⟩ := isSpelling_of_readSpelling hspelling
      split at h
      · next hcolon =>
        obtain ⟨gap', hgap', rfl⟩ := exists_gap_cons hcolon
        split at h
        · cases h
        · next value others hread =>
          obtain ⟨gap₂, body, hgap₂, hbody, rfl⟩ := ih (.value value) hread
          split at h
          · next hclose =>
            obtain ⟨gap₃, hgap₃, rfl⟩ := exists_gap_cons hclose
            cases h
            exact ⟨_, .lastMember hgap hspelled hgap' hgap₂ hbody hgap₃, by simp [keyed, quoted]⟩
          · next hcomma =>
            obtain ⟨gap₃, hgap₃, rfl⟩ := exists_gap_cons hcomma
            obtain ⟨⟨ms, r⟩, hread, ⟨⟩⟩ := Option.map_eq_some_iff.mp h
            obtain ⟨body', hbody', rfl⟩ := ih (.members ms) hread
            exact ⟨_, .member hgap hspelled hgap' hgap₂ hbody hgap₃ hbody',
              by simp [keyed, quoted]⟩
          · cases h
      · cases h
  · cases h

lemma allFound (fuel : ℕ) : AllFound fuel := by
  induction fuel with
  | zero =>
    intro part cs rest h
    cases part <;> cases h
  | succ fuel ih =>
    intro part cs rest h
    cases part with
    | value v => exact found_value_succ ih h
    | items vs => exact found_items_succ ih h
    | members ms => exact found_members_succ ih h

/-- The texts that are read are those of the grammar. -/
theorem read?_eq_some_iff {text : String} {v : Json} : read? text = some v ↔ IsText text v := by
  constructor
  · intro h
    simp only [read?] at h
    split at h
    · next value rest hread =>
      split at h
      · next hend =>
        obtain rfl := Option.some.inj h
        obtain ⟨gap, body, hgap, hbody, htext⟩ := allFound _ (.value value) hread
        obtain ⟨gap', hgap', hrest⟩ := exists_gap rest
        rw [List.isEmpty_iff.mp hend, List.append_nil] at hrest
        exact ⟨gap, body, gap', hgap, hbody, hgap', hrest ▸ htext⟩
      · cases h
    · cases h
  · exact read?_of_isText

end ClipboardWatchdog.Json
