import ClipboardWatchdog.Proofs.Helper.Keeping

/-!
# Work that agrees

Two pieces of work agree under a relation of their states if from related states they come to the
same, a value or a fault, and leave related states. The states need not be of one type. Agreement
is carried through a procedure by the calls that are made for it.
-/

namespace ClipboardWatchdog

variable {τ τ' σ ω ω' α β γ : Type}

/-- From related states both come to the same value, or are broken off by the same fault, and they
leave related states. -/
def Agree (R : τ → τ' → Prop) (a : ExceptT Fault (StateM τ) α) (b : ExceptT Fault (StateM τ') α) :
    Prop :=
  ∀ s t, R s t → (a.run.run s).1 = (b.run.run t).1 ∧ R (a.run.run s).2 (b.run.run t).2

namespace Agree

variable {R : τ → τ' → Prop} {a : ExceptT Fault (StateM τ) α} {b : ExceptT Fault (StateM τ') α}

protected lemma pure (x : α) : Agree R (pure x) (pure x) := fun _ _ h => ⟨rfl, h⟩

protected lemma throw (fault : Fault) :
    Agree R (throw fault : ExceptT Fault (StateM τ) α) (throw fault) := fun _ _ h => ⟨rfl, h⟩

protected lemma modify {f : τ → τ} {g : τ' → τ'} (h : ∀ s t, R s t → R (f s) (g t)) :
    Agree R (modify f : ExceptT Fault (StateM τ) PUnit) (modify g) :=
  fun s t hst => ⟨rfl, h s t hst⟩

protected lemma bind {f : α → ExceptT Fault (StateM τ) β} {g : α → ExceptT Fault (StateM τ') β}
    (hab : Agree R a b) (hfg : ∀ x, Agree R (f x) (g x)) : Agree R (a >>= f) (b >>= g) := by
  intro s t hst
  obtain ⟨hresult, hstate⟩ := hab s t hst
  rw [run_run_bind, run_run_bind]
  revert hresult hstate
  rcases a.run.run s with ⟨fault | x, s'⟩ <;> rcases b.run.run t with ⟨fault' | y, t'⟩
  · rintro ⟨⟩ hstate
    exact ⟨rfl, hstate⟩
  · rintro ⟨⟩
  · rintro ⟨⟩
  · rintro ⟨⟩ hstate
    exact hfg x s' t' hstate

/-- What is read off the states may be used if it is the same in related ones. -/
protected lemma get_bind {k : τ → γ} {k' : τ' → γ} {f : γ → ExceptT Fault (StateM τ) β}
    {g : γ → ExceptT Fault (StateM τ') β} (hk : ∀ s t, R s t → k s = k' t)
    (hfg : ∀ x, Agree R (f x) (g x)) :
    Agree R (get >>= fun s => f (k s)) (get >>= fun t => g (k' t)) := by
  intro s t hst
  rw [run_run_bind, run_run_bind]
  change ((f (k s)).run.run s).1 = ((g (k' t)).run.run t).1 ∧
    R ((f (k s)).run.run s).2 ((g (k' t)).run.run t).2
  rw [hk s t hst]
  exact hfg _ s t hst

protected lemma forM {f : α → ExceptT Fault (StateM τ) PUnit}
    {g : α → ExceptT Fault (StateM τ') PUnit} (h : ∀ x, Agree R (f x) (g x)) (xs : List α) :
    Agree R (xs.forM f) (xs.forM g) := by
  induction xs with
  | nil => exact .pure ()
  | cons x xs ih => exact (h x).bind fun _ => ih

/-- Work that cannot be broken off agrees where its values do and its states stay related. -/
protected lemma lift {a : StateM τ α} {b : StateM τ' α}
    (h : ∀ s t, R s t → (a.run s).1 = (b.run t).1 ∧ R (a.run s).2 (b.run t).2) :
    Agree R (liftM a : ExceptT Fault (StateM τ) α) (liftM b) := by
  intro s t hst
  obtain ⟨hvalue, hstate⟩ := h s t hst
  exact ⟨congrArg Except.ok hvalue, hstate⟩

/-- Two ways of making calls that agree on each carry out a procedure alike. -/
protected lemma procedure {make : (c : Call) → ExceptT Fault (StateM τ) c.Answer}
    {make' : (c : Call) → ExceptT Fault (StateM τ') c.Answer} (h : ∀ c, Agree R (make c) (make' c))
    (p : Procedure α) : Agree R (p.run make) (p.run make') := by
  induction p with
  | done x => exact .pure x
  | call c next ih => exact (h c).bind ih

end Agree

/-! ### Two engines -/

/-- A relation of scenes whose engines are in the same state but for what they have been through. It
is kept when the same happens to both engines. -/
structure Coupled (R : Scene σ ω → Scene σ ω' → Prop) : Prop where
  host : ∀ s t, R s t → s.engine.host = t.engine.host
  busy : ∀ s t, R s t → s.engine.busy = t.engine.busy
  runs : ∀ s t, R s t → s.engine.runs = t.engine.runs
  withHost : ∀ s t host, R s t → R (s.withHost host) (t.withHost host)
  visited : ∀ s t v, R s t → R (s.visited v) (t.visited v)
  taken : ∀ s t, R s t → R s.taken t.taken
  freed : ∀ s t finished, R s t → R (s.freed finished) (t.freed finished)

namespace Agree

variable {R : Scene σ ω → Scene σ ω' → Prop} (hR : Coupled R)

include hR

protected lemma settle {ask : Act σ ω Standing} {ask' : Act σ ω' Standing} (hask : Agree R ask ask')
    (reply : Reply σ α) : Agree R (reply.settle ask) (reply.settle ask') := by
  induction reply with
  | answers a host =>
    exact (Agree.modify fun s t => hR.withHost s t host).bind fun _ => .pure a
  | breaks fault host =>
    exact (Agree.modify fun s t => hR.withHost s t host).bind fun _ => .throw fault
  | asks host resume ih =>
    refine (Agree.modify fun s t => hR.withHost s t host).bind fun _ => hask.bind fun standing => ?_
    refine (Agree.modify fun s t => hR.visited s t (.asked standing)).bind fun _ => ?_
    exact .get_bind (f := fun host => (resume standing host).settle ask)
      (g := fun host => (resume standing host).settle ask') hR.host fun host => ih standing host

protected lemma makeCall {ask : Act σ ω Standing} {ask' : Act σ ω' Standing}
    (hask : Agree R ask ask') (host : Host σ) (c : Call) :
    Agree R (makeCall host ask c) (makeCall host ask' c) := by
  refine (Agree.modify fun s t => hR.visited s t (.made c)).bind fun _ => ?_
  exact .get_bind (f := fun state => (host c state).settle ask)
    (g := fun state => (host c state).settle ask') hR.host fun state =>
      .settle hR hask (host c state)

/-- What the host learns of a request is the same in both scenes. -/
protected lemma standing (outcome : Outcome) :
    Agree R (do return (← get).standing outcome) (do return (← get).standing outcome) := by
  intro s t hst
  have hstanding : s.standing outcome = t.standing outcome := by
    simp only [Scene.standing, hR.busy s t hst, hR.runs s t hst]
  exact ⟨congrArg Except.ok hstanding, hst⟩

/-- Resets agree if the traces of dropped requests do. -/
protected lemma reset {trace : Aside ω Unit} {trace' : Aside ω' Unit}
    (htrace : Agree R (aside trace) (aside trace')) (host : Host σ) (helper : String)
    (reason : Reason) :
    Agree R (liftM (reset host trace helper reason)) (liftM (reset host trace' helper reason)) := by
  have hdrop : Agree R (dropRequest trace) (dropRequest trace') :=
    htrace.bind fun _ => .standing hR .coalesced
  have hrun := Agree.procedure (fun c => .makeCall hR hdrop host c) (restart helper reason)
  refine .lift fun s t hst => ?_
  cases hbusy : s.engine.busy with
  | true =>
    rw [reset_of_busy _ _ _ _ hbusy, reset_of_busy _ _ _ _ (hR.busy s t hst ▸ hbusy)]
    exact ⟨rfl, hst⟩
  | false =>
    obtain ⟨hresult, hscene⟩ := hrun s.taken t.taken (hR.taken s t hst)
    rw [run_reset_of_free _ _ _ _ hbusy, run_reset_of_free _ _ _ _ (hR.busy s t hst ▸ hbusy)]
    revert hresult hscene
    rcases ((restart helper reason).run (makeCall host (dropRequest trace))).run.run s.taken with
      ⟨fault | report, s'⟩ <;>
      rcases ((restart helper reason).run (makeCall host (dropRequest trace'))).run.run t.taken with
        ⟨fault' | report', t'⟩
    · rintro ⟨⟩ hscene
      exact ⟨rfl, hR.freed s' t' false hscene⟩
    · rintro ⟨⟩
    · rintro ⟨⟩
    · rintro ⟨⟩ hscene
      exact ⟨rfl, hR.freed s' t' true hscene⟩

end Agree

end ClipboardWatchdog
