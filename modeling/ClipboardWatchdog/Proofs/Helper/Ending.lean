import ClipboardWatchdog.Proofs.Helper.Keeping

/-!
# How work ends

`Ends P a Q E` says of work `a` that starts from a state with `P`: if it comes to a value, `Q` holds
of the value and the state that it leaves, and if a fault breaks it off, `E` holds of the fault and
that state. Work that no fault breaks off has `E` false throughout, and work that is always broken
off has `Q` false throughout.
-/

namespace ClipboardWatchdog

variable {τ α β : Type}

/-- From every state with the first property the work ends with a value and the second property, or
with a fault and the third. -/
def Ends (P : τ → Prop) (a : ExceptT Fault (StateM τ) α) (Q : α → τ → Prop)
    (E : Fault → τ → Prop) : Prop :=
  ∀ s, P s →
    match a.run.run s with
    | (.ok x, s') => Q x s'
    | (.error fault, s') => E fault s'

namespace Ends

variable {P P' : τ → Prop} {Q Q' : α → τ → Prop} {R : β → τ → Prop} {E E' : Fault → τ → Prop}
  {a : ExceptT Fault (StateM τ) α}

protected lemma pure {x : α} (h : ∀ s, P s → Q x s) :
    Ends P (pure x : ExceptT Fault (StateM τ) α) Q E := h

protected lemma throw {fault : Fault} (h : ∀ s, P s → E fault s) :
    Ends P (throw fault : ExceptT Fault (StateM τ) α) Q E := h

protected lemma modify {f : τ → τ} {Q : PUnit → τ → Prop} (h : ∀ s, P s → Q ⟨⟩ (f s)) :
    Ends P (modify f : ExceptT Fault (StateM τ) PUnit) Q E := h

protected lemma bind {f : α → ExceptT Fault (StateM τ) β} (ha : Ends P a Q E)
    (hf : ∀ x, Ends (Q x) (f x) R E) : Ends P (a >>= f) R E := by
  intro s hs
  have hs' := ha s hs
  rw [run_run_bind]
  revert hs'
  rcases a.run.run s with ⟨fault | x, s'⟩
  · exact id
  · exact fun hs' => hf x s' hs'

protected lemma imp (h : Ends P a Q E) (hP : ∀ s, P' s → P s) (hQ : ∀ x s, Q x s → Q' x s)
    (hE : ∀ fault s, E fault s → E' fault s) : Ends P' a Q' E' := by
  intro s hs
  have hs' := h s (hP s hs)
  revert hs'
  rcases a.run.run s with ⟨fault | x, s'⟩
  · exact hE fault s'
  · exact hQ x s'

protected lemma ite {p : Prop} [Decidable p] {b : ExceptT Fault (StateM τ) α} (ha : Ends P a Q E)
    (hb : Ends P b Q E) : Ends P (if p then a else b) Q E := by
  split
  · exact ha
  · exact hb

protected lemma or (h : Ends P a Q E) (h' : Ends P' a Q' E) :
    Ends (fun s => P s ∨ P' s) a (fun x s => Q x s ∨ Q' x s) E := by
  rintro s (hs | hs)
  · exact h.imp (fun _ => id) (fun _ _ => .inl) (fun _ _ => id) s hs
  · exact h'.imp (fun _ => id) (fun _ _ => .inr) (fun _ _ => id) s hs

/-- Work that no fault breaks off may be followed by work that can be. -/
lemma of_sure (h : Ends P a Q fun _ _ => False) : Ends P a Q E :=
  h.imp (fun _ => id) (fun _ _ => id) fun _ _ => False.elim

protected lemma forM {f : α → ExceptT Fault (StateM τ) PUnit}
    (h : ∀ x, Ends P (f x) (fun _ => P) E) (xs : List α) :
    Ends P (xs.forM f) (fun _ => P) E := by
  induction xs with
  | nil => exact .pure fun _ hs => hs
  | cons x xs ih => exact (h x).bind fun _ => ih

/-- Work keeps a property if it ends with it in either case. -/
lemma keeps (h : Ends P a (fun _ => P) fun _ => P) : Keeps P a := by
  intro s hs
  have hs' := h s hs
  revert hs'
  rcases a.run.run s with ⟨_ | _, s'⟩ <;> exact id

lemma of_keeps (h : Keeps P a) : Ends P a (fun _ => P) fun _ => P := by
  intro s hs
  have hs' := h s hs
  revert hs'
  rcases a.run.run s with ⟨_ | _, s'⟩ <;> exact id

/-- Work keeps a property if its first part does and its second part does for all values that can
come of the first. -/
lemma bind_keeps {φ : α → Prop} {f : α → ExceptT Fault (StateM τ) β}
    (ha : Ends P a (fun x s => φ x ∧ P s) fun _ => P) (hf : ∀ x, φ x → Keeps P (f x)) :
    Keeps P (a >>= f) :=
  (ha.bind fun x s hs => of_keeps (hf x hs.1) s hs.2).keeps

/-- Work that no fault breaks off comes to a value. -/
lemma exists_run_eq_ok (h : Ends P a Q fun _ _ => False) {s : τ} (hs : P s) :
    ∃ x s', a.run.run s = (.ok x, s') ∧ Q x s' := by
  have hs' := h s hs
  revert hs'
  rcases a.run.run s with ⟨fault | x, s'⟩
  · exact False.elim
  · exact fun hs' => ⟨x, s', rfl, hs'⟩

end Ends

end ClipboardWatchdog
