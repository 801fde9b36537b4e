import ClipboardWatchdog.Clipboard.Observation
import Mathlib.Tactic.Common

/-!
# Clipboards that signal every copy

A `Timeline` is the whole life of a clipboard whose sequence number grows by one with every copy:
what it holds when so many copies have been made. A `Look` says how many copies had been made at
each of the four moments at which an observation asks the clipboard something, so that copies may
land before, between and after these moments in any number. A clipboard that holds no text reads
as an empty one.
-/

namespace ClipboardWatchdog

/-- A clipboard through time: its sequence number before the first copy, and its text and formats
when so many copies have been made. -/
structure Timeline where
  first : Nat
  text : Nat → String
  formats : Nat → List Format

/-- How the reading of a text fails: with an error, by a breakdown of the reader, or by never
coming back. -/
inductive ReadFailure
  | refused (error : ClipboardError)
  | crashed
  | hung
  deriving DecidableEq, Repr

/-- The attempt that fails in this way. -/
def ReadFailure.attempt : ReadFailure → Attempt
  | refused e => .answered (.error e)
  | crashed => .crashed
  | hung => .hung

lemma ReadFailure.text?_attempt (limit : Span) (f : ReadFailure) :
    f.attempt.text? limit = none := by
  cases f <;> rfl

/-- One look at a clipboard amid copies: how many had been made when the sequence number was
sampled first, when the formats were listed, when the text was read, and when the sequence number
was sampled again, and how the reading failed, if it did. -/
structure Look where
  before : Nat
  listedAt : Nat
  readAt : Nat
  after : Nat
  failure : Option ReadFailure := none
  before_le : before ≤ listedAt := by omega
  listedAt_le : listedAt ≤ readAt := by omega
  readAt_le : readAt ≤ after := by omega

namespace Look

/-- The reading succeeded, and no copy landed between it and the second sample. -/
def IsSettled (l : Look) : Prop := l.failure = none ∧ l.readAt = l.after

/-- Looks that are taken one after the other: each is over before any later one begins. -/
def Orderly (looks : List Look) : Prop := looks.Pairwise fun l m => l.after ≤ m.before

instance (looks : List Look) : Decidable (Orderly looks) :=
  inferInstanceAs (Decidable (List.Pairwise _ looks))

lemma Orderly.le_of_mem {looks : List Look} {l m : Look} (h : Orderly (looks ++ [m]))
    (hl : l ∈ looks) : l.after ≤ m.before :=
  (List.pairwise_append.mp h).2.2 l hl m List.mem_cons_self

/-- Where nothing was copied from one look to the end of the next, the next one reads what the
clipboard held at the end of the first. -/
lemma readAt_eq_of_quiet {l m : Look} (h : l.after ≤ m.before) (hq : l.after = m.after) :
    m.before = l.after ∧ m.readAt = l.after := by
  have h₁ := m.before_le
  have h₂ := m.listedAt_le
  have h₃ := m.readAt_le
  constructor <;> omega

end Look

namespace Timeline

variable (c : Timeline)

/-- The sequence number after so many copies. -/
def sequence (copies : Nat) : Nat := c.first + copies

@[simp] lemma sequence_inj {m n : Nat} : c.sequence m = c.sequence n ↔ m = n := by
  simp [sequence]

/-- What the clipboard answers during a look. -/
def observation (l : Look) : Observation where
  before := c.sequence l.before
  formats := c.formats l.listedAt
  read := match l.failure with
    | none => .answered (.ok (c.text l.readAt))
    | some f => f.attempt
  after := c.sequence l.after

/-- The text that a look reads, if its reading succeeds. -/
def read? (l : Look) : Option String :=
  match l.failure with
  | none => some (c.text l.readAt)
  | some _ => none

@[simp] lemma before_observation (l : Look) :
    (c.observation l).before = c.sequence l.before := rfl

@[simp] lemma after_observation (l : Look) : (c.observation l).after = c.sequence l.after := rfl

@[simp] lemma text?_observation (limit : Span) (l : Look) :
    (c.observation l).read.text? limit = c.read? l := by
  cases h : l.failure with
  | none => simp only [observation, read?, h]; rfl
  | some f => simp only [observation, read?, h, ReadFailure.text?_attempt]

lemma read?_of_isSettled {l : Look} (h : l.IsSettled) : c.read? l = some (c.text l.after) := by
  obtain ⟨hf, ha⟩ := h
  simp only [read?, hf, ha]

lemma eq_text_of_read? {l : Look} {t : String} (h : c.read? l = some t) : t = c.text l.readAt := by
  cases hf : l.failure with
  | none => simpa [read?, hf] using h.symm
  | some f => simp [read?, hf] at h

/-- One copy is made: the text `b` under the number eleven takes the place of `a` under ten. -/
def oneCopy : Timeline where
  first := 10
  text n := if n = 0 then "a" else "b"
  formats _ := []

end Timeline

namespace Look

/-- A look that no copy overtakes, when so many have been made. -/
def still (copies : Nat) : Look where
  before := copies
  listedAt := copies
  readAt := copies
  after := copies

/-- A look that a copy overtakes after its reading. -/
def overtaken (copies : Nat) : Look where
  before := copies
  listedAt := copies
  readAt := copies
  after := copies + 1

end Look

end ClipboardWatchdog
