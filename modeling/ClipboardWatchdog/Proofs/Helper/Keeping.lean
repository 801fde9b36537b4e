import ClipboardWatchdog.Helper.Engine
import Mathlib.Tactic.Common

/-!
# What work keeps

Work on a state may be abandoned half way, and what it did until then stays done. `Keeps P a` says
that `a` never leaves a state without the property `P` that it found in it, however `a` ends. A
property of scenes that visits of the host do not touch is kept by every call to the host, if it is
kept by what the host asks for meanwhile.
-/

namespace ClipboardWatchdog

variable {τ σ ω α β : Type}

/-- Whatever comes of the work, a value or a fault, the state keeps the property. -/
def Keeps (P : τ → Prop) (a : ExceptT Fault (StateM τ) α) : Prop := ∀ s, P s → P (a.run.run s).2

/-- What comes of two pieces of work in a row. -/
lemma run_run_bind (a : ExceptT Fault (StateM τ) α) (f : α → ExceptT Fault (StateM τ) β) (s : τ) :
    (a >>= f).run.run s =
      match a.run.run s with
      | (.ok x, s') => (f x).run.run s'
      | (.error fault, s') => (.error fault, s') := by
  rw [ExceptT.run_bind, StateT.run_bind]
  cases a.run.run s with
  | mk r s' => cases r <;> rfl

/-- Two pieces of work in a row end with a value exactly if both do. -/
lemma run_bind_eq_ok {a : ExceptT Fault (StateM τ) α} {f : α → ExceptT Fault (StateM τ) β}
    {s s' : τ} {y : β} :
    (a >>= f).run.run s = (.ok y, s') ↔
      ∃ x t, a.run.run s = (.ok x, t) ∧ (f x).run.run t = (.ok y, s') := by
  rw [run_run_bind]
  rcases a.run.run s with ⟨fault | x, t⟩
  · constructor
    · intro h
      cases h
    · rintro ⟨_, _, ha, -⟩
      cases ha
  · constructor
    · intro h
      exact ⟨x, t, rfl, h⟩
    · rintro ⟨_, _, ha, h⟩
      cases ha
      exact h

/-- Work whose value is dropped comes to the same but for the value. -/
lemma run_discard (a : ExceptT Fault (StateM τ) α) (s : τ) :
    (do let _ ← a : ExceptT Fault (StateM τ) Unit).run.run s =
      ((a.run.run s).1.map fun _ => (), (a.run.run s).2) := by
  rw [run_run_bind]
  rcases a.run.run s with ⟨_ | _, _⟩ <;> rfl

/-- Work that cannot be broken off comes to its value. -/
lemma run_run_lift (a : StateM τ α) (s : τ) :
    (liftM a : ExceptT Fault (StateM τ) α).run.run s = (.ok (a.run s).1, (a.run s).2) := rfl

/-- What comes of work that deals with its faults. -/
lemma run_run_tryCatch (a : ExceptT Fault (StateM τ) α) (f : Fault → ExceptT Fault (StateM τ) α)
    (s : τ) :
    (tryCatch a f).run.run s =
      match a.run.run s with
      | (.ok x, s') => (.ok x, s')
      | (.error fault, s') => (f fault).run.run s' := by
  rw [ExceptT.run_tryCatch, StateT.run_bind]
  rcases a.run.run s with ⟨fault | x, s'⟩ <;> rfl

namespace Keeps

variable {P : τ → Prop}

protected lemma pure (x : α) : Keeps P (pure x : ExceptT Fault (StateM τ) α) := fun _ h => h

protected lemma throw (fault : Fault) : Keeps P (throw fault : ExceptT Fault (StateM τ) α) :=
  fun _ h => h

protected lemma get : Keeps P (get : ExceptT Fault (StateM τ) τ) := fun _ h => h

protected lemma modify {f : τ → τ} (h : ∀ s, P s → P (f s)) :
    Keeps P (modify f : ExceptT Fault (StateM τ) PUnit) := h

protected lemma demand (r : Except ClockFault α) : Keeps P (Aside.demand r : Aside τ α) := by
  cases r <;> exact fun _ h => h

protected lemma bind {a : ExceptT Fault (StateM τ) α} {f : α → ExceptT Fault (StateM τ) β}
    (ha : Keeps P a) (hf : ∀ x, Keeps P (f x)) : Keeps P (a >>= f) := by
  intro s hs
  have hs' := ha s hs
  rw [run_run_bind]
  cases h : a.run.run s with
  | mk r s' =>
    rw [h] at hs'
    cases r with
    | ok x => exact hf x s' hs'
    | error fault => exact hs'

protected lemma ite {p : Prop} [Decidable p] {a b : ExceptT Fault (StateM τ) α} (ha : Keeps P a)
    (hb : Keeps P b) : Keeps P (if p then a else b) := by
  split
  · exact ha
  · exact hb

protected lemma forM {f : α → ExceptT Fault (StateM τ) PUnit} {xs : List α}
    (h : ∀ x ∈ xs, Keeps P (f x)) : Keeps P (xs.forM f) := by
  induction xs with
  | nil => exact .pure ()
  | cons x xs ih =>
    exact (h x List.mem_cons_self).bind fun _ => ih fun y hy => h y (List.mem_cons_of_mem x hy)

/-- Work that deals with its faults keeps a property if its dealing with them does. -/
protected lemma tryCatch {a : ExceptT Fault (StateM τ) α} {f : Fault → ExceptT Fault (StateM τ) α}
    (ha : Keeps P a) (hf : ∀ fault, Keeps P (f fault)) : Keeps P (tryCatch a f) := by
  intro s hs
  have hs' := ha s hs
  rw [run_run_tryCatch]
  revert hs'
  rcases a.run.run s with ⟨fault | x, s'⟩
  · exact hf fault s'
  · exact id

/-- Work that cannot be abandoned keeps a property where its state does. -/
protected lemma lift {a : StateM τ α} (h : ∀ s, P s → P (a.run s).2) :
    Keeps P (liftM a : ExceptT Fault (StateM τ) α) := h

/-- Work on the surroundings keeps a property of theirs in the scene. -/
protected lemma aside {Q : ω → Prop} {a : Aside ω α} (h : Keeps Q a) :
    Keeps (fun s : Scene σ ω => Q s.around) (aside a : Act σ ω α) := fun s hs => h s.around hs

end Keeps

/-! ### Calls to the host -/

/-- A property of scenes that the visits of the host do not touch. -/
structure Unvisited (P : Scene σ ω → Prop) : Prop where
  withHost : ∀ s host, P s → P (s.withHost host)
  visited : ∀ s v, P s → P (s.visited v)

/-- A property of the surroundings has nothing to do with the host. -/
lemma unvisited_around (Q : ω → Prop) : Unvisited fun s : Scene σ ω => Q s.around where
  withHost _ _ h := h
  visited _ _ h := h

/-- What comes of a reset that finds the engine free. -/
lemma run_reset_of_free (host : Host σ) (trace : Aside ω Unit) (helper : String) (reason : Reason)
    {s : Scene σ ω} (h : s.engine.busy = false) :
    (reset host trace helper reason).run s =
      match ((restart helper reason).run (makeCall host (dropRequest trace))).run.run s.taken with
      | (.ok report, s') => (.completed report, s'.freed true)
      | (.error fault, s') => (.failed fault.message, s'.freed false) := by
  have hfree : ¬s.engine.busy = true := by simp [h]
  simp only [reset, StateT.run_bind, StateT.run_get, pure_bind, if_neg hfree, StateT.run_modify]
  cases ((restart helper reason).run (makeCall host (dropRequest trace))).run.run s.taken with
  | mk r s' => cases r <;> rfl

namespace Keeps

variable {P : Scene σ ω → Prop}

protected lemma settle (hP : Unvisited P) {ask : Act σ ω Standing} (hask : Keeps P ask)
    (reply : Reply σ α) : Keeps P (reply.settle ask) := by
  induction reply with
  | answers a host =>
    exact (Keeps.modify fun s => hP.withHost s host).bind fun _ => .pure a
  | breaks fault host =>
    exact (Keeps.modify fun s => hP.withHost s host).bind fun _ => .throw fault
  | asks host resume ih =>
    refine (Keeps.modify fun s => hP.withHost s host).bind fun _ => hask.bind fun standing => ?_
    refine (Keeps.modify fun s => hP.visited s (.asked standing)).bind fun _ => ?_
    exact Keeps.get.bind fun s => ih standing s.engine.host

protected lemma makeCall (hP : Unvisited P) {ask : Act σ ω Standing} (hask : Keeps P ask)
    (host : Host σ) (c : Call) : Keeps P (makeCall host ask c) := by
  refine (Keeps.modify fun s => hP.visited s (.made c)).bind fun _ => ?_
  exact Keeps.get.bind fun s => .settle hP hask _

/-- A procedure keeps what each of its calls keeps. -/
protected lemma procedure {make : (c : Call) → Act σ ω c.Answer} (h : ∀ c, Keeps P (make c))
    (p : Procedure α) : Keeps P (p.run make) := by
  induction p with
  | done a => exact .pure a
  | call c next ih => exact (h c).bind ih

/-- A reset keeps a property of the surroundings that the trace of a dropped request keeps. -/
protected lemma reset {Q : ω → Prop} {trace : Aside ω Unit} (h : Keeps Q trace) (host : Host σ)
    (helper : String) (reason : Reason) :
    Keeps (fun s : Scene σ ω => Q s.around)
      (liftM (reset host trace helper reason) : Act σ ω Outcome) := by
  have hdrop : Keeps (fun s : Scene σ ω => Q s.around) (dropRequest trace : Act σ ω Standing) :=
    h.aside.bind fun _ => Keeps.get.bind fun _ => .pure _
  have hrun : Keeps (fun s : Scene σ ω => Q s.around)
      ((restart helper reason).run (makeCall host (dropRequest trace)) : Act σ ω Report) :=
    .procedure (.makeCall (unvisited_around Q) hdrop host) _
  refine Keeps.lift fun s hs => ?_
  cases hb : s.engine.busy with
  | true =>
    rw [reset_of_busy host trace helper reason hb]
    exact hs
  | false =>
    have hs' := hrun s.taken hs
    rw [run_reset_of_free host trace helper reason hb]
    revert hs'
    cases ((restart helper reason).run (makeCall host (dropRequest trace))).run.run s.taken with
    | mk r s' => cases r <;> exact id

end Keeps

end ClipboardWatchdog
