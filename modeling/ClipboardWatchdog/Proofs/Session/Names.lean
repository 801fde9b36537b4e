import ClipboardWatchdog.Proofs.Storage.Walking
import ClipboardWatchdog.Proofs.Time.Calendar
import ClipboardWatchdog.Proofs.Time.StampRoundTrip
import ClipboardWatchdog.Session.Name

/-!
# Names of session files

The start of a session is found in the name of its file, and a name in which a start is found is the
name of one entry of a directory: it has no slash where its base has none.
-/

namespace ClipboardWatchdog

/-! ### What a name gives back -/

namespace Session

lemma stripStart_append (front cs : List Char) : stripStart front (front ++ cs) = some cs := by
  simp [stripStart]

lemma stripEnd_append (back cs : List Char) : stripEnd back (cs ++ back) = some cs := by
  simp [stripEnd]

lemma readName_append (base stamp : List Char) :
    readName base (base ++ '_' :: stamp ++ ending) = Civil.readFileText stamp := by
  have hname : base ++ '_' :: stamp ++ ending = base ++ (['_'] ++ (stamp ++ ending)) := by simp
  rw [hname]
  simp only [readName, stripStart_append, stripEnd_append, Option.bind_eq_bind, Option.bind_some]

/-- The name of a file tells when its session was started, to the second. -/
theorem startOf?_nameAt (base : String) {start : Civil} (h : start.isValid = true) :
    startOf? base (nameAt base start) = some start.wholeSecond := by
  rw [startOf?, nameAt, String.toList_ofList, nameChars, readName_append,
    Civil.readFileText_fileText h]

theorem startOf?_fileName (base : String) {start : Moment}
    (h : (Civil.ofMoment start).isValid = true) :
    startOf? base (fileName base start) = some (Civil.ofMoment start).wholeSecond :=
  startOf?_nameAt base h

end Session

/-! ### What names are made of -/

/-- A stamp that can be read holds no slash. -/
lemma Civil.not_mem_of_readFileText {cs : List Char} {c : Civil} (h : readFileText cs = some c) :
    '/' ∉ cs := by
  obtain ⟨s, hs, rfl, -⟩ := Stamp.readFileText_eq_some_iff.mp h
  exact hs.not_mem_chars (by decide) (by decide) (by decide) (by decide) (by decide)

namespace Session

lemma eq_append_of_stripStart {front cs rest : List Char} (h : stripStart front cs = some rest) :
    cs = front ++ rest := by
  unfold stripStart at h
  split at h
  · next hfront =>
    cases h
    obtain ⟨rest, rfl⟩ := List.isPrefixOf_iff_prefix.mp hfront
    rw [List.drop_left]
  · cases h

lemma eq_append_of_stripEnd {back cs rest : List Char} (h : stripEnd back cs = some rest) :
    cs = rest ++ back := by
  unfold stripEnd at h
  split at h
  · next hback =>
    cases h
    obtain ⟨rest, rfl⟩ := List.isSuffixOf_iff_suffix.mp hback
    simp
  · cases h

/-- What a name is made of in which a start is found. -/
lemma toList_of_startOf? {base name : String} {start : Civil}
    (h : startOf? base name = some start) :
    ∃ stamp, name.toList = base.toList ++ '_' :: stamp ++ ending ∧
      Civil.readFileText stamp = some start := by
  simp only [startOf?, readName, Option.bind_eq_bind, Option.bind_eq_some_iff] at h
  obtain ⟨r₁, h₁, r₂, h₂, stamp, h₃, hread⟩ := h
  refine ⟨stamp, ?_, hread⟩
  rw [eq_append_of_stripStart h₁, eq_append_of_stripStart h₂, eq_append_of_stripEnd h₃]
  simp

/-- The name of a session file stands for one entry, if its base has no slash. -/
theorem isPlain_of_startOf? {base name : String} {start : Civil} (hbase : '/' ∉ base.toList)
    (h : startOf? base name = some start) : Path.IsPlain name := by
  obtain ⟨stamp, hname, hread⟩ := toList_of_startOf? h
  have hstamp := Civil.not_mem_of_readFileText hread
  have hlength : 5 ≤ name.toList.length := by
    rw [hname]
    simp [ending]
    omega
  refine ⟨by rw [hname]; simp [hbase, hstamp, ending], ?_, ?_⟩
  · by_contra hidle
    simp only [Path.isIdle, Bool.not_eq_false, Bool.or_eq_true, decide_eq_true_eq] at hidle
    rcases hidle with rfl | rfl <;> simp at hlength
  · rintro rfl
    simp at hlength

end Session

end ClipboardWatchdog
