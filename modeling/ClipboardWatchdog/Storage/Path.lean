/-!
# Paths

A path is the list of its segments between slashes, as it is spelled: empty segments stand for a
slash at the start or the end and for doubled slashes. Joining a path and a text that starts with
a slash gives the text alone. A name without a slash joined to a path is its last segment.
-/

namespace ClipboardWatchdog

/-- A path: what is spelled between its slashes. -/
structure Path where
  segments : List String
  deriving DecidableEq, Repr, Inhabited

namespace Path

/-- Cuts a text at its slashes. -/
def cut : List Char → List (List Char)
  | [] => [[]]
  | c :: rest =>
    if c = '/' then [] :: cut rest
    else
      match cut rest with
      | [] => [[c]]
      | s :: ss => (c :: s) :: ss

/-- The path that a text spells. -/
def ofString (s : String) : Path := ⟨(cut s.toList).map String.ofList⟩

/-- The characters of a path: its segments with slashes between them. -/
def chars (p : Path) : List Char := ['/'].intercalate (p.segments.map String.toList)

protected def toString (p : Path) : String := String.ofList p.chars

instance : ToString Path := ⟨Path.toString⟩

/-- A text appended to a path with one slash between them. A text that starts with a slash stands
alone. -/
def join (p : Path) (s : String) : Path :=
  match s.toList with
  | '/' :: _ => ofString s
  | cs =>
    let front := if p.segments.getLast? = some "" then p.segments.dropLast else p.segments
    ⟨front ++ (cut cs).map String.ofList⟩

/-- A segment that names nothing: an empty one, or the dot for the directory itself. -/
def isIdle (segment : String) : Bool := segment = "" || segment = "."

/-- A list without the idle segments at its end; the mark of the root stays. -/
def trimIdle (segments : List String) : List String :=
  match segments with
  | "" :: rest => "" :: (rest.reverse.dropWhile isIdle).reverse
  | all => (all.reverse.dropWhile isIdle).reverse

/-- The path of the directory that holds a path: all but its last segment. The root and a path
without any segment have none. -/
def parent? (p : Path) : Option Path :=
  match trimIdle p.segments with
  | [] => none
  | [""] => none
  | segments => some ⟨trimIdle segments.dropLast⟩

def fileName (p : Path) : String := p.segments.getLast?.getD ""

theorem cut_of_not_mem {cs : List Char} (h : '/' ∉ cs) : cut cs = [cs] := by
  induction cs with
  | nil => rfl
  | cons c rest ih =>
    have hc : c ≠ '/' := fun e => h (e ▸ List.mem_cons_self)
    have hr : '/' ∉ rest := fun m => h (List.mem_cons_of_mem _ m)
    simp [cut, hc, ih hr]

end Path

end ClipboardWatchdog
