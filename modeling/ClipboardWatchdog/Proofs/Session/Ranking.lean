import ClipboardWatchdog.Session.Retention
import Mathlib.Data.List.Sort
import Mathlib.Tactic.Common

/-!
# The ranking of session files

Retention ranks the session files of a directory by their starts. The file that is listed last is
outranked by all files that are not older than it, those of the same start among them
(`mem_expired_concat_iff`). Leaving files out does not change the ranks of the others
(`filter_newestFirst`).
-/

namespace ClipboardWatchdog.Session

variable {base : String} {names : List String} {keep : ℕ}

/-! ### Sessions among names -/

lemma mem_sessionsAmong_iff {s : Civil × String} :
    s ∈ sessionsAmong base names ↔ s.2 ∈ names ∧ startOf? base s.2 = some s.1 := by
  obtain ⟨start, name⟩ := s
  simp only [sessionsAmong, List.mem_filterMap, Option.map_eq_some_iff, Prod.mk.injEq]
  constructor
  · rintro ⟨n, hn, c, hstart, rfl, rfl⟩
    exact ⟨hn, hstart⟩
  · rintro ⟨hname, hstart⟩
    exact ⟨name, hname, start, hstart, rfl, rfl⟩

/-- The names of sessions come in the order in which they are listed. -/
lemma map_sessionsAmong (base : String) (names : List String) :
    (sessionsAmong base names).map (·.2) =
      names.filter fun name => (startOf? base name).isSome := by
  induction names with
  | nil => rfl
  | cons name rest ih =>
    unfold sessionsAmong at ih ⊢
    cases hstart : startOf? base name with
    | none => simpa [hstart] using ih
    | some start => simpa [hstart] using ih

lemma sessionsAmong_filter (p : String → Bool) :
    sessionsAmong base (names.filter p) = (sessionsAmong base names).filter fun s => p s.2 := by
  induction names with
  | nil => rfl
  | cons name rest ih =>
    unfold sessionsAmong at ih ⊢
    by_cases hp : p name = true <;> cases hstart : startOf? base name <;> simp [hp, hstart, ih]

/-- Only listed names of sessions go. -/
lemma exists_startOf?_of_mem_expired {name : String} (h : name ∈ expired base keep names) :
    name ∈ names ∧ ∃ start, startOf? base name = some start := by
  obtain ⟨s, hs, rfl⟩ := List.mem_map.mp h
  have hmem := (List.mergeSort_perm _ _).mem_iff.mp (List.mem_of_mem_drop hs)
  obtain ⟨hname, hstart⟩ := mem_sessionsAmong_iff.mp hmem
  exact ⟨hname, s.1, hstart⟩

/-! ### The order -/

lemma notOlder_trans (a b c : Civil × String) (hab : notOlder a b = true)
    (hbc : notOlder b c = true) : notOlder a c = true := by
  simp only [notOlder, decide_eq_true_eq] at *
  omega

lemma notOlder_total (a b : Civil × String) : (notOlder a b || notOlder b a) = true := by
  simp only [notOlder, Bool.or_eq_true, decide_eq_true_eq]
  omega

lemma orderedInsert_append {a : Civil × String} {front back : List (Civil × String)}
    (hfront : ∀ b ∈ front, (!notOlder a b) = true) (hback : ∀ b ∈ back, notOlder a b = true) :
    (front ++ back).orderedInsert (fun a b => notOlder a b = true) a = front ++ a :: back := by
  induction front with
  | nil =>
    cases back with
    | nil => rfl
    | cons b back => simp [hback b List.mem_cons_self]
  | cons b front ih =>
    have hab : notOlder a b = false := by simpa using hfront b List.mem_cons_self
    have hrest := ih fun c hc => hfront c (List.mem_cons_of_mem _ hc)
    simp [hab, hrest]

/-- Where a session is ranked that is listed first: behind those that are newer and in front of all
others, which keep their order. -/
lemma newestFirst_cons (a : Civil × String) (rest : List (Civil × String)) :
    ∃ front back, newestFirst (a :: rest) = front ++ a :: back ∧
      newestFirst rest = front ++ back ∧ (∀ b ∈ front, (!notOlder a b) = true) ∧
        ∀ b ∈ back, notOlder a b = true := by
  obtain ⟨front, back, hcons, hrest, hfront⟩ :=
    List.mergeSort_cons notOlder_trans notOlder_total a rest
  have hordered : (front ++ a :: back).Pairwise fun x y => notOlder x y = true := by
    rw [← hcons]
    exact List.pairwise_mergeSort notOlder_trans notOlder_total _
  have hback := (List.pairwise_cons.mp (List.pairwise_append.mp hordered).2.1).1
  exact ⟨front, back, hcons, hrest, hfront, hback⟩

/-- Ranking by insertion gives the same order. -/
lemma newestFirst_eq_insertionSort (sessions : List (Civil × String)) :
    newestFirst sessions = sessions.insertionSort fun a b => notOlder a b = true := by
  induction sessions with
  | nil => simp [newestFirst]
  | cons a rest ih =>
    obtain ⟨front, back, hcons, hrest, hfront, hback⟩ := newestFirst_cons a rest
    rw [List.insertionSort_cons, ← ih, hcons, hrest, orderedInsert_append hfront hback]

/-- Those that are left out do not change the order of the others, not even of one start. -/
lemma filter_newestFirst (p : Civil × String → Bool) (sessions : List (Civil × String)) :
    (newestFirst sessions).filter p = newestFirst (sessions.filter p) := by
  induction sessions with
  | nil => simp [newestFirst]
  | cons a rest ih =>
    obtain ⟨front, back, hcons, hrest, hfront, hback⟩ := newestFirst_cons a rest
    rw [hrest, List.filter_append] at ih
    rw [hcons, List.filter_append]
    by_cases ha : p a = true
    · have hfront' : ∀ b ∈ front.filter p, (!notOlder a b) = true :=
        fun b hb => hfront b (List.mem_of_mem_filter hb)
      have hback' : ∀ b ∈ back.filter p, notOlder a b = true :=
        fun b hb => hback b (List.mem_of_mem_filter hb)
      rw [List.filter_cons_of_pos ha, List.filter_cons_of_pos ha, newestFirst_eq_insertionSort,
        List.insertionSort_cons, ← newestFirst_eq_insertionSort, ← ih,
        orderedInsert_append hfront' hback']
    · rw [List.filter_cons_of_neg ha, List.filter_cons_of_neg ha, ih]

/-- Where a list is cut in two, a member of it lies on one side with all that is beyond it. -/
lemma append_cons_eq_append {α : Type} {s : α} {newer older front back : List α}
    (h : newer ++ s :: older = front ++ back) :
    (∃ mid, newer = front ++ mid ∧ back = mid ++ s :: older) ∨
      ∃ mid, front = newer ++ s :: mid ∧ older = mid ++ back := by
  rcases List.append_eq_append_iff.mp h with ⟨mid, hfront, hback⟩ | ⟨mid, hnewer, hback⟩
  · cases mid with
    | nil => exact .inl ⟨[], by simpa using hfront.symm, by simpa using hback.symm⟩
    | cons c mid =>
      obtain ⟨rfl, holder⟩ := List.cons.inj hback
      exact .inr ⟨mid, hfront, holder⟩
  · exact .inl ⟨mid, hnewer, hback⟩

/-- What stands in front of the session that is listed last are the sessions that are not older. -/
lemma newestFirst_concat (sessions : List (Civil × String)) (s : Civil × String) :
    ∃ newer older, newestFirst (sessions ++ [s]) = newer ++ s :: older ∧
      newer.length = sessions.countP (notOlder · s) := by
  induction sessions with
  | nil => exact ⟨[], [], by simp [newestFirst], rfl⟩
  | cons a rest ih =>
    obtain ⟨newer, older, hsorted, hlength⟩ := ih
    obtain ⟨front, back, hcons, hrest, hfront, hbehind⟩ := newestFirst_cons a (rest ++ [s])
    have heq : newer ++ s :: older = front ++ back := hsorted.symm.trans hrest
    rw [List.cons_append, hcons]
    by_cases has : notOlder a s = true
    · -- nothing in front of `a` is outranked by it, and `s` is
      have hs : s ∉ front := fun hmem => by simpa [has] using hfront s hmem
      rcases append_cons_eq_append heq with ⟨mid, hnewer, hback⟩ | ⟨mid, hfront', -⟩
      · refine ⟨front ++ a :: mid, older, by simp [hback], ?_⟩
        simp only [List.countP_cons, has, if_true, ← hlength, hnewer, List.length_append,
          List.length_cons]
        omega
      · exact absurd (hfront' ▸ by simp) hs
    · -- `a` is older than `s` and comes after it
      have hs : s ∉ back := fun hmem => has (hbehind s hmem)
      rcases append_cons_eq_append heq with ⟨mid, -, hback⟩ | ⟨mid, hfront', holder⟩
      · exact absurd (hback ▸ by simp) hs
      · refine ⟨newer, mid ++ a :: back, by simp [hfront'], ?_⟩
        simp only [List.countP_cons, has, hlength]
        rfl

/-- The name that is listed last goes exactly if as many sessions as are kept are not older. -/
lemma mem_expired_concat_iff {name : String} {start : Civil}
    (hname : name ∉ names) (hstart : startOf? base name = some start) :
    name ∈ expired base keep (names ++ [name]) ↔
      keep ≤ (sessionsAmong base names).countP (notOlder · (start, name)) := by
  have hsessions : sessionsAmong base (names ++ [name]) =
      sessionsAmong base names ++ [(start, name)] := by
    simp [sessionsAmong, hstart]
  obtain ⟨newer, older, hsorted, hlength⟩ :=
    newestFirst_concat (sessionsAmong base names) (start, name)
  have hothers : ∀ s ∈ newer ++ older, s.2 ≠ name := by
    have hperm : (newer ++ (start, name) :: older).Perm
        (sessionsAmong base names ++ [(start, name)]) := by
      rw [← hsorted]
      exact List.mergeSort_perm _ _
    have hrest : (newer ++ older).Perm (sessionsAmong base names) :=
      ((List.perm_middle.symm.trans hperm).trans (List.perm_append_singleton _ _)).cons_inv
    intro s hs hsname
    obtain ⟨hlisted, -⟩ := mem_sessionsAmong_iff.mp (hrest.mem_iff.mp hs)
    exact hname (hsname ▸ hlisted)
  unfold expired
  rw [hsessions, hsorted, ← hlength]
  constructor
  · intro hmem
    by_contra hlt
    obtain ⟨s, hs, hsname⟩ := List.mem_map.mp hmem
    rw [← List.singleton_append, ← List.append_assoc, List.drop_append,
      List.drop_eq_nil_of_le (by simp; omega), List.nil_append] at hs
    exact hothers s (List.mem_append_right _ (List.mem_of_mem_drop hs)) hsname
  · intro hle
    rw [List.drop_append_of_le_length hle]
    simp

end ClipboardWatchdog.Session
