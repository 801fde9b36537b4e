import ClipboardWatchdog.Proofs.Helper.BrokenOff
import ClipboardWatchdog.Proofs.Helper.Ending

/-!
# What a host can say

A host gives an answer, or throws a fault, if in some state and after some requests of its own it
does so. Whatever texts the outcome of a reset holds have come from the host in one of these ways,
unless the trace of a dropped request was broken off (`origin_reset`).
-/

namespace ClipboardWatchdog

variable {σ ω α : Type}

namespace Reply

/-- The reply can come to this answer. -/
inductive Gives : Reply σ α → α → Prop
  | answers (a : α) (state : σ) : Gives (answers a state) a
  | asks {state state' : σ} {resume : Standing → σ → Reply σ α} {standing : Standing} {a : α}
      (h : Gives (resume standing state') a) : Gives (asks state resume) a

/-- The reply can come to this fault. -/
inductive Throws : Reply σ α → Fault → Prop
  | breaks (fault : Fault) (state : σ) : Throws (breaks fault state) fault
  | asks {state state' : σ} {resume : Standing → σ → Reply σ α} {standing : Standing}
      {fault : Fault} (h : Throws (resume standing state') fault) : Throws (asks state resume) fault

end Reply

/-- The host can give this answer to the call. -/
def Host.Gives (host : Host σ) (c : Call) (answer : c.Answer) : Prop :=
  ∃ state, (host c state).Gives answer

/-- The host can break down with this fault. -/
def Host.Throws (host : Host σ) (fault : Fault) : Prop := ∃ c state, (host c state).Throws fault

/-! ### Calls -/

section

variable {P : Scene σ ω → Prop} (hP : Unvisited P) {request : Act σ ω Standing} {F : Fault → Prop}
  (hrequest : Ends P request (fun _ => P) fun fault _ => F fault)

include hP

lemma ends_withHost (state : σ) (E : Fault → Scene σ ω → Prop) :
    Ends P (modify (·.withHost state) : Act σ ω PUnit) (fun _ => P) E :=
  .modify fun s => hP.withHost s state

lemma ends_visited (v : Visit) (E : Fault → Scene σ ω → Prop) :
    Ends P (modify (·.visited v) : Act σ ω PUnit) (fun _ => P) E :=
  .modify fun s => hP.visited s v

include hrequest

/-- What comes of a reply, if the host's requests are broken off by certain faults only. -/
lemma ends_settle (reply : Reply σ α) :
    Ends P (reply.settle request) (fun a s => reply.Gives a ∧ P s)
      fun fault _ => reply.Throws fault ∨ F fault := by
  induction reply with
  | answers a state =>
    exact (ends_withHost hP state _).bind fun _ => .pure fun _ hs =>
      ⟨.answers a state, hs⟩
  | breaks fault state =>
    exact (ends_withHost hP state _).bind fun _ => .throw fun _ _ =>
      .inl (.breaks fault state)
  | asks state resume ih =>
    refine (ends_withHost hP state _).bind fun _ => ?_
    refine (hrequest.imp (fun _ => id) (fun _ _ => id) fun _ _ => .inr).bind fun standing => ?_
    refine (ends_visited hP (.asked standing) _).bind fun _ => ?_
    intro s hs
    refine (ih standing s.engine.host).imp (fun _ => id) ?_ ?_ s hs
    · exact fun _ _ => And.imp_left .asks
    · exact fun _ _ => Or.imp_left .asks

lemma ends_makeCall (host : Host σ) (c : Call) :
    Ends P (makeCall host request c) (fun answer s => host.Gives c answer ∧ P s)
      fun fault _ => host.Throws fault ∨ F fault := by
  refine (ends_visited hP (.made c) _).bind fun _ => ?_
  intro s hs
  refine (ends_settle hP hrequest (host c s.engine.host)).imp (fun _ => id) ?_ ?_ s hs
  · exact fun _ _ => And.imp_left fun h => ⟨_, h⟩
  · exact fun _ _ => Or.imp_left fun h => ⟨_, _, h⟩

lemma gives_of_answered {host : Host σ} {s t : Scene σ ω} {exchanges : List Exchange} (hs : P s)
    (h : Answered (makeCall host request) s exchanges t) :
    ∀ e ∈ exchanges, host.Gives e.call e.answer := by
  induction h with
  | nil => simp
  | @cons s s₁ t c answer rest hcall hrest ih =>
    have hgives := ends_makeCall hP hrequest host c s hs
    rw [hcall] at hgives
    exact List.forall_mem_cons.mpr ⟨hgives.1, ih hgives.2⟩

end

/-! ### Resets -/

/-- The texts that an outcome holds are messages of errors that the host gives, or of a fault that
it throws or that is of a given kind. -/
def Outcome.ComesFrom (host : Host σ) (helper : String) (F : Fault → Prop) : Outcome → Prop
  | completed report =>
    (∀ failure ∈ report.failures, ∃ pid e, host.Gives (.terminate pid) (.error e) ∧
      failure = e.message) ∧
    ∀ text, report.launchError = some text → ∃ e, host.Gives (.launch helper) (.error e) ∧
      text = e.message
  | coalesced => True
  | failed message => ∃ fault, (host.Throws fault ∨ F fault) ∧ message = fault.message

variable {host : Host σ} {trace : Aside ω Unit} {helper : String} {F : Fault → Prop}

lemma Course.comesFrom_report (reason : Reason) {c : Course}
    (h : ∀ e ∈ c.exchanges helper, host.Gives e.call e.answer) :
    (Outcome.completed (c.report reason)).ComesFrom host helper F := by
  constructor
  · intro failure hfailure
    obtain ⟨⟨pid, result⟩, hmem, htext⟩ := List.mem_filterMap.mp hfailure
    cases result with
    | ok _ => cases htext
    | error e =>
      have hexchange : ⟨.terminate pid, .error e⟩ ∈ c.exchanges helper := by
        refine List.mem_cons_of_mem _ (List.mem_append_left _ ?_)
        exact List.mem_map.mpr ⟨(pid, .error e), hmem, rfl⟩
      exact ⟨pid, e, h _ hexchange, (Option.some.inj htext).symm⟩
  · intro text htext
    have hexchange : ⟨.launch helper, c.launched⟩ ∈ c.exchanges helper :=
      List.mem_cons_of_mem _ (List.mem_append_right _ List.mem_cons_self)
    have hgives := h _ hexchange
    obtain ⟨ended, launched, after⟩ := c
    cases launched with
    | ok _ => cases htext
    | error e => exact ⟨e, hgives, (Option.some.inj htext).symm⟩

/-- The texts that come of a reset are the host's own, or those of the trace of a dropped
request. -/
lemma comesFrom_reset (htrace : Ends (fun _ => True) trace (fun _ _ => True) fun fault _ => F fault)
    (reason : Reason) (s : Scene σ ω) :
    ((reset host trace helper reason).run s).1.ComesFrom host helper F := by
  have hall : Unvisited fun _ : Scene σ ω => True := unvisited_around fun _ => True
  have hrequest : Ends (fun _ => True) (dropRequest trace : Act σ ω Standing) (fun _ _ => True)
      fun fault _ => F fault := by
    refine Ends.bind (Q := fun _ _ => True) ?_ fun _ => fun _ _ => trivial
    intro s _
    have hs := htrace s.around trivial
    rw [run_aside]
    revert hs
    rcases trace.run.run s.around with ⟨_ | _, _⟩ <;> exact id
  rcases hreset : (reset host trace helper reason).run s with ⟨report | _ | message, s'⟩
  · obtain ⟨c, t, hanswered, -, rfl⟩ := exists_course_of_reset hreset
    exact c.comesFrom_report reason (gives_of_answered hall hrequest trivial hanswered)
  · trivial
  · cases hbusy : s.engine.busy with
    | true =>
      rw [reset_of_busy host trace helper reason hbusy] at hreset
      cases hreset
    | false =>
      rw [run_reset_of_free host trace helper reason hbusy] at hreset
      split at hreset
      · cases hreset
      · next fault t hrun =>
        obtain ⟨-, c, t', -, -, hcall⟩ := Procedure.run_eq_error_iff.mp hrun
        have hthrows := ends_makeCall hall hrequest host c t' trivial
        rw [hcall] at hthrows
        cases hreset
        exact ⟨fault, hthrows, rfl⟩

end ClipboardWatchdog
