import ClipboardWatchdog.Proofs.Storage.Entries
import Mathlib.Data.List.Nodup

/-!
# What a directory lists

A directory lists each of its entries under a name of its own. Where that is so, an entry that is
listed is the one that its path leads to (`lookup_of_mem_children`). A disk `without` some places
lists what it listed otherwise, in the same order.
-/

namespace ClipboardWatchdog.Disk

variable {d : Disk} {here there place : Place} {name : String} {entry : Entry}

/-- The names in a directory as file systems keep them: each once, and none with a slash. -/
structure KeepsNames (d : Disk) (here : Place) : Prop where
  nodup : ((d.children here).map (·.1)).Nodup
  noSlash : ∀ e ∈ d.children here, '/' ∉ e.1.toList

lemma mem_children_iff :
    (name, entry) ∈ d.children here ↔ (here ++ [name], entry) ∈ d.entries := by
  simp only [children, List.mem_filterMap, Option.map_eq_some_iff, childName?_eq_some_iff]
  constructor
  · rintro ⟨⟨place, entry⟩, he, name, rfl, hentry⟩
    cases hentry
    exact he
  · intro he
    exact ⟨_, he, name, rfl, rfl⟩

/-- An entry that is listed is the one that is found at its place. -/
lemma lookup_of_mem_children (h : d.KeepsNames here) (hmem : (name, entry) ∈ d.children here) :
    d.lookup (here ++ [name]) = some entry := by
  have hentry := mem_children_iff.mp hmem
  unfold lookup
  rw [if_neg (by simp)]
  cases hfind : d.entries.find? fun e => e.1 = here ++ [name] with
  | none =>
    have hnone := List.find?_eq_none.mp hfind _ hentry
    simp at hnone
  | some found =>
    obtain ⟨place, entry'⟩ := found
    obtain rfl : place = here ++ [name] := by simpa using List.find?_some hfind
    have hfound := mem_children_iff.mpr (List.mem_of_find?_eq_some hfind)
    cases List.inj_on_of_nodup_map h.nodup hfound hmem rfl
    rfl

lemma mem_names_of_lookup (h : d.lookup (here ++ [name]) = some entry) :
    name ∈ (d.children here).map (·.1) := by
  unfold lookup at h
  rw [if_neg (by simp), Option.map_eq_some_iff] at h
  obtain ⟨⟨place, entry'⟩, hfind, -⟩ := h
  obtain rfl : place = here ++ [name] := by simpa using List.find?_some hfind
  exact List.mem_map_of_mem (mem_children_iff.mpr (List.mem_of_find?_eq_some hfind))

/-! ### What is taken away -/

/-- The disk without what stands at some places. -/
def without (d : Disk) (places : List Place) : Disk :=
  { d with entries := d.entries.filter fun e => e.1 ∉ places }

@[simp] lemma without_nil (d : Disk) : d.without [] = d := by
  simp [without]

lemma without_erase (d : Disk) (place : Place) (places : List Place) :
    (d.erase place).without places = d.without (place :: places) := by
  simp [without, erase, List.filter_filter, Bool.and_comm]

/-- Of a directory, only the names that go are no longer listed. -/
lemma children_without (d : Disk) (here : Place) (names : List String) :
    (d.without (names.map (here ++ [·]))).children here =
      (d.children here).filter fun e => e.1 ∉ names := by
  unfold children without
  rw [List.filterMap_filter, List.filter_filterMap]
  congr 1
  funext e
  cases hchild : childName? here e.1 with
  | none => simp
  | some name =>
    have hplace := childName?_eq_some_iff.mp hchild
    by_cases hname : name ∈ names <;> simp [hplace, hname, Option.filter]

lemma names_without (d : Disk) (here : Place) (names : List String) :
    ((d.without (names.map (here ++ [·]))).children here).map (·.1) =
      ((d.children here).map (·.1)).filter fun name => name ∉ names := by
  rw [children_without, List.filter_map]
  rfl

/-- Other directories list what they listed. -/
lemma children_without_of_ne (h : there ≠ here) (names : List String) :
    (d.without (names.map (here ++ [·]))).children there = d.children there := by
  unfold children without
  rw [List.filterMap_filter]
  congr 1
  funext e
  cases hchild : childName? there e.1 with
  | none => simp
  | some name =>
    have hplace := childName?_eq_some_iff.mp hchild
    simp [hplace, h.symm]

end ClipboardWatchdog.Disk
