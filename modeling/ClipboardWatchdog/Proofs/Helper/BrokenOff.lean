import ClipboardWatchdog.Helper.ProcessTable
import ClipboardWatchdog.Proofs.Helper.Exchanges
import ClipboardWatchdog.Proofs.Helper.Requests
import Mathlib.Data.List.Induction

/-!
# Resets that are broken off

A host may break down in any call. A procedure is then left at that call, after the exchanges that
went before it (`Procedure.run_eq_error_iff`). A reset that is left in this way has failed with the
message of the fault, whatever part of its work was done, and the engine is free for the next
request. `requests_settle` says so for any row of requests.
-/

namespace ClipboardWatchdog

variable {τ σ ω α β : Type}

namespace Procedure

/-- With these exchanges the procedure comes to this call. -/
inductive Reaches : Procedure α → List Exchange → Call → Prop
  | here (c : Call) (next : c.Answer → Procedure α) : Reaches (call c next) [] c
  | goesOn {c c' : Call} {next : c.Answer → Procedure α} {answer : c.Answer}
      {exchanges : List Exchange} (h : Reaches (next answer) exchanges c') :
      Reaches (call c next) (⟨c, answer⟩ :: exchanges) c'

/-- A procedure is broken off exactly if it comes to a call that is. -/
lemma run_eq_error_iff {make : (c : Call) → ExceptT Fault (StateM τ) c.Answer} {p : Procedure α}
    {fault : Fault} {s s' : τ} :
    (p.run make).run.run s = (.error fault, s') ↔
      ∃ exchanges c t, p.Reaches exchanges c ∧ Answered make s exchanges t ∧
        (make c).run.run t = (.error fault, s') := by
  induction p generalizing s with
  | done a =>
    constructor
    · intro h
      cases h
    · rintro ⟨_, _, _, ⟨⟩, -⟩
  | call c next ih =>
    rw [run_call, run_run_bind]
    constructor
    · intro h
      rcases hcall : (make c).run.run s with ⟨fault' | answer, s₁⟩
      · rw [hcall] at h
        cases h
        exact ⟨[], c, s, .here c next, .nil s, hcall⟩
      · rw [hcall] at h
        obtain ⟨exchanges, c', t, hreaches, hanswered, hbreaks⟩ := (ih answer).mp h
        exact ⟨⟨c, answer⟩ :: exchanges, c', t, .goesOn hreaches, .cons hcall hanswered, hbreaks⟩
    · rintro ⟨_, c', t, hreaches, hanswered, hbreaks⟩
      cases hreaches with
      | here =>
        cases hanswered
        rw [hbreaks]
      | goesOn hreaches =>
        cases hanswered with
        | cons hcall hanswered =>
          rw [hcall]
          exact (ih _).mpr ⟨_, c', t, hreaches, hanswered, hbreaks⟩

end Procedure

namespace Drops

variable {Q : ω → Prop} {request : Act σ ω Standing} {runs : ℕ} {s t : Scene σ ω}

/-- A call in the course of a reset comes to what the host makes of it. In either case it has been
made, and the reset is still under way. -/
lemma run_makeCall_of_underWay (h : Drops Q request) (host : Host σ) (c : Call)
    (hs : s.UnderWay Q runs) :
    let r := (makeCall host request c).run.run s
    r.1 = ((host c s.engine.host).alone runs).1 ∧ r.2.engine.calls = s.engine.calls ++ [c] ∧
      r.2.UnderWay Q runs := by
  intro r
  obtain ⟨k, around, haround, hrun⟩ := h.run_makeCall host c hs.busy hs.around
  have hr : r = _ := hrun
  rw [hr, Scene.calls_withRequests, ← Scene.calls_visited_made, ← hs.runs]
  exact ⟨rfl, rfl, hs.busy, rfl, haround⟩

/-- The calls of some exchanges have been made, each once and in their order. -/
lemma calls_of_answered (h : Drops Q request) {host : Host σ} {exchanges : List Exchange}
    (hs : s.UnderWay Q runs) (ht : Answered (makeCall host request) s exchanges t) :
    t.engine.calls = s.engine.calls ++ exchanges.map (·.call) ∧ t.UnderWay Q runs := by
  induction ht with
  | nil s => exact ⟨by simp, hs⟩
  | @cons s s₁ t c answer rest hcall hrest ih =>
    obtain ⟨-, hcalls, hs₁⟩ := h.run_makeCall_of_underWay host c hs
    rw [hcall] at hcalls hs₁
    obtain ⟨hrest, ht⟩ := ih hs₁
    refine ⟨?_, ht⟩
    rw [hrest, hcalls, List.append_assoc, List.map_cons, List.singleton_append]

end Drops

/-! ### Requests in a row -/

def Outcome.isCompleted : Outcome → Bool
  | completed _ => true
  | _ => false

/-- Requests in a row, each made once the one before it has come back. -/
def requests (host : Host σ) (trace : Aside ω Unit) (helper : String) (reasons : List Reason) :
    StateM (Scene σ ω) (List Outcome) :=
  reasons.mapM (reset host trace helper)

lemma run_requests_concat (host : Host σ) (trace : Aside ω Unit) (helper : String)
    (past : List Reason) (reason : Reason) (s : Scene σ ω) :
    (requests host trace helper (past ++ [reason])).run s =
      let r := (requests host trace helper past).run s
      let r' := (reset host trace helper reason).run r.2
      (r.1 ++ [r'.1], r'.2) := by
  rw [requests, List.mapM_append, List.mapM_cons, List.mapM_nil]
  rfl

/-- After any row of requests the engine is free. Each was carried out, to its end or not, and it
has counted those that were completed. -/
lemma settles_requests (host : Host σ) (trace : Aside ω Unit) (helper : String) (state : σ)
    (around : ω) (reasons : List Reason) :
    let r := (requests host trace helper reasons).run ⟨{ host := state }, around⟩
    r.2.engine.busy = false ∧ r.1.length = reasons.length ∧ Outcome.coalesced ∉ r.1 ∧
      r.2.engine.runs = r.1.countP (·.isCompleted) := by
  induction reasons using List.reverseRecOn with
  | nil => exact ⟨rfl, rfl, List.not_mem_nil, rfl⟩
  | append_singleton past reason ih =>
    obtain ⟨hfree, hlength, hcarried, hruns⟩ := ih
    obtain ⟨hfree', hcounted⟩ := settles_reset host trace helper reason hfree
    rw [run_requests_concat]
    refine ⟨hfree', by simp [hlength], ?_, ?_⟩
    · rcases hcounted with ⟨⟨report, houtcome⟩, -⟩ | ⟨⟨message, houtcome⟩, -⟩ <;>
        simp [hcarried, houtcome]
    · rcases hcounted with ⟨⟨report, houtcome⟩, hcount⟩ | ⟨⟨message, houtcome⟩, hcount⟩ <;>
        simp [hcount, hruns, houtcome, Outcome.isCompleted]

/-! ### One reset -/

/-- In the course of a reset the host breaks down with a fault: the exchanges before that, and the
call that it was at. -/
structure BreaksDown (host : Host σ) (trace : Aside ω Unit) (helper : String) (reason : Reason)
    (s : Scene σ ω) (exchanges : List Exchange) (c : Call) (fault : Fault) : Prop where
  reaches : (restart helper reason).Reaches exchanges c
  breaks : ∃ t, Answered (makeCall host (dropRequest trace)) s.taken exchanges t ∧
    ((host c t.engine.host).alone t.engine.runs).1 = .error fault

section

variable {Q : ω → Prop} {host : Host σ} {trace : Aside ω Unit} {helper : String} {reason : Reason}
  {s : Scene σ ω} (htrace : Ends Q trace (fun _ => Q) fun _ _ => False)
  (hfree : s.engine.busy = false) (hs : Q s.around)

include htrace hfree hs

/-- A reset in whose course the host breaks down has failed, and that call was its last. -/
lemma run_reset_of_breaksDown {exchanges : List Exchange} {c : Call} {fault : Fault}
    (h : BreaksDown host trace helper reason s exchanges c fault) :
    let r := (reset host trace helper reason).run s
    r.1 = .failed fault.message ∧
      r.2.engine.calls = s.engine.calls ++ (exchanges.map (·.call) ++ [c]) := by
  intro r
  have hdrops : Drops Q (dropRequest trace : Act σ ω Standing) := drops_dropRequest htrace
  have htaken : s.taken.UnderWay Q s.engine.runs := ⟨rfl, rfl, hs⟩
  obtain ⟨t, hanswered, hbreaks⟩ := h.breaks
  obtain ⟨hcalls, ht⟩ := hdrops.calls_of_answered htaken hanswered
  obtain ⟨hresult, hlast, -⟩ := hdrops.run_makeCall_of_underWay host c ht
  rw [← ht.runs, hbreaks] at hresult
  have hrun := Procedure.run_eq_error_iff.mpr
    ⟨exchanges, c, t, h.reaches, hanswered, Prod.ext hresult rfl⟩
  have hr : r = _ := run_reset_of_free host trace helper reason hfree
  rw [hrun] at hr
  rw [hr, ← List.append_assoc]
  exact ⟨rfl, hlast.trans (congrArg (· ++ [c]) hcalls)⟩

/-- A reset fails with a message exactly if the host breaks down in its course with a fault that
has this message. -/
lemma reset_eq_failed_iff {message : String} :
    ((reset host trace helper reason).run s).1 = .failed message ↔
      ∃ exchanges c fault, BreaksDown host trace helper reason s exchanges c fault ∧
        message = fault.message := by
  constructor
  · intro h
    have hdrops : Drops Q (dropRequest trace : Act σ ω Standing) := drops_dropRequest htrace
    have htaken : s.taken.UnderWay Q s.engine.runs := ⟨rfl, rfl, hs⟩
    rw [run_reset_of_free host trace helper reason hfree] at h
    rcases hrun : ((restart helper reason).run (makeCall host (dropRequest trace))).run.run
      s.taken with ⟨fault | report, s'⟩
    · rw [hrun] at h
      cases h
      obtain ⟨exchanges, c, t, hreaches, hanswered, hcall⟩ := Procedure.run_eq_error_iff.mp hrun
      obtain ⟨-, ht⟩ := hdrops.calls_of_answered htaken hanswered
      obtain ⟨hresult, -⟩ := hdrops.run_makeCall_of_underWay host c ht
      rw [hcall, ← ht.runs] at hresult
      exact ⟨exchanges, c, fault, ⟨hreaches, t, hanswered, hresult.symm⟩, rfl⟩
    · rw [hrun] at h
      cases h
  · rintro ⟨exchanges, c, fault, hbreaks, rfl⟩
    exact (run_reset_of_breaksDown htrace hfree hs hbreaks).1

end

/-- What becomes of requests to an engine whose host may break down in any call, after any row of
them. The engine is free, has carried out each of them, and has counted those that were completed;
so the next one is carried out, too. It fails exactly if the host breaks down in its course. It
then has the text of the fault, or says that there was none, and no call was made after the one at
which the host broke down. -/
theorem requests_settle (host : Host σ) (helper : String) (state : σ) (around : ω)
    (past : List Reason) (reason : Reason) :
    let r := (requests host (pure ()) helper past).run ⟨{ host := state }, around⟩
    let s := r.2
    let r' := (reset host (pure ()) helper reason).run s
    s.engine.busy = false ∧ r.1.length = past.length ∧ Outcome.coalesced ∉ r.1 ∧
      s.engine.runs = r.1.countP (·.isCompleted) ∧
      r'.2.engine.busy = false ∧ r'.1 ≠ .coalesced ∧
      (∀ message, r'.1 = .failed message ↔
        ∃ exchanges c fault, BreaksDown host (pure ()) helper reason s exchanges c fault ∧
          message = fault.message) ∧
      ∀ exchanges c fault, BreaksDown host (pure ()) helper reason s exchanges c fault →
        r'.2.engine.calls = s.engine.calls ++ (exchanges.map (·.call) ++ [c]) ∧
          (∀ text, fault = .text text → r'.1 = .failed text) ∧
          (fault = .unreadable → r'.1 = .failed "unknown panic") := by
  intro r s r'
  have htrace : Ends (fun _ : ω => True) (pure () : Aside ω Unit) (fun _ _ => True)
      fun _ _ => False := .pure fun _ h => h
  obtain ⟨hfree, hlength, hcarried, hruns⟩ :=
    settles_requests host (pure () : Aside ω Unit) helper state around past
  obtain ⟨hfree', hcounted⟩ : Settles s.engine.runs r' :=
    settles_reset host (pure ()) helper reason hfree
  refine ⟨hfree, hlength, hcarried, hruns, hfree', ?_, ?_, ?_⟩
  · rintro hcoalesced
    rcases hcounted with ⟨⟨report, houtcome⟩, -⟩ | ⟨⟨message, houtcome⟩, -⟩ <;>
      cases hcoalesced.symm.trans houtcome
  · intro message
    exact reset_eq_failed_iff htrace hfree trivial
  · intro exchanges c fault hbreaks
    obtain ⟨houtcome, hcalls⟩ := run_reset_of_breaksDown htrace hfree trivial hbreaks
    refine ⟨hcalls, ?_, ?_⟩
    · rintro text rfl
      exact houtcome
    · rintro rfl
      exact houtcome

/-- The host breaks down at each launch. The second reset finds no process that is left. -/
example :
    let table : ProcessTable := { found := [10], breaksOn := some (.launch, .unreadable) }
    let r := (requests ProcessTable.host (pure ()) "rdpclip.exe" [.manual, .scheduled]).run
      ⟨{ host := table }, ()⟩
    r.1 = [.failed "unknown panic", .failed "unknown panic"] ∧ r.2.engine.runs = 0 ∧
      r.2.engine.calls = [.find "rdpclip.exe", .terminate 10, .launch "rdpclip.exe",
        .find "rdpclip.exe", .launch "rdpclip.exe"] := by
  decide +kernel

end ClipboardWatchdog
