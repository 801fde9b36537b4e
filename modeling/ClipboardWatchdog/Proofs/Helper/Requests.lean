import ClipboardWatchdog.Proofs.Helper.Agreeing
import ClipboardWatchdog.Proofs.Helper.Ending

/-!
# Requests in the course of a reset

A host may ask for further resets in the middle of the calls that a reset makes. Such a request is
dropped (`Drops`): it comes back at once, and the engine is left as it was. What a call comes to is
then settled by the host alone (`Reply.alone`), and a reset goes as it would on the host that makes
no request, `Host.muted`. `Undisturbed` puts together what this means for one reset.
-/

namespace ClipboardWatchdog

variable {σ ω ω' α : Type}

/-! ### Hosts that keep to themselves -/

namespace Reply

/-- What a call comes to if all requests in its course are dropped: an answer or a fault, and the
state that the host is left in. -/
def alone (runs : ℕ) : Reply σ α → Except Fault α × σ
  | answers a host => (.ok a, host)
  | breaks fault host => (.error fault, host)
  | asks host resume => (resume ⟨.coalesced, true, runs⟩ host).alone runs

lemma run_settle_muted (ask : Act σ ω Standing) (runs : ℕ) (reply : Reply σ α) (s : Scene σ ω) :
    ((reply.muted runs).settle ask).run.run s =
      ((reply.alone runs).1, s.withHost (reply.alone runs).2) := by
  induction reply with
  | answers a host => rfl
  | breaks fault host => rfl
  | asks host resume ih => exact ih _ host

end Reply

/-- The host that does the same work and takes each of its requests as dropped without making
it. -/
def Host.muted (host : Host σ) (runs : ℕ) : Host σ := fun c s => (host c s).muted runs

lemma run_makeCall_muted (host : Host σ) (runs : ℕ) (ask : Act σ ω Standing) (c : Call)
    (s : Scene σ ω) :
    (makeCall (host.muted runs) ask c).run.run s =
      (((host c s.engine.host).alone runs).1,
        (s.visited (.made c)).withHost ((host c s.engine.host).alone runs).2) :=
  Reply.run_settle_muted ask runs (host c s.engine.host) (s.visited (.made c))

/-! ### Requests that are dropped -/

/-- Whenever the engine is busy a request is dropped: it is answered at once, and the engine stays
as it was. -/
def Drops (Q : ω → Prop) (request : Act σ ω Standing) : Prop :=
  ∀ s, s.engine.busy = true → Q s.around →
    ∃ around, Q around ∧
      request.run.run s = (.ok ⟨.coalesced, true, s.engine.runs⟩, { s with around })

/-- A request that is dropped comes back if its trace can be left. -/
lemma drops_dropRequest {Q : ω → Prop} {trace : Aside ω Unit}
    (h : Ends Q trace (fun _ => Q) fun _ _ => False) :
    Drops Q (dropRequest trace : Act σ ω Standing) := by
  intro s hbusy hs
  obtain ⟨⟨⟩, around, htrace, haround⟩ := h.exists_run_eq_ok hs
  refine ⟨around, haround, ?_⟩
  rw [dropRequest, run_run_bind, run_aside, htrace, ← hbusy]
  rfl

/-- The scene after so many requests that were dropped. -/
def Scene.withRequests (s : Scene σ ω) (k : ℕ) (around : ω) : Scene σ ω where
  engine := { s.engine with
    visits := s.engine.visits ++ List.replicate k (.asked ⟨.coalesced, true, s.engine.runs⟩) }
  around

namespace Drops

variable {Q : ω → Prop} {request : Act σ ω Standing}

/-- Where requests are dropped, the host alone decides what a call comes to. -/
lemma run_settle (h : Drops Q request) (reply : Reply σ α) {s : Scene σ ω}
    (hbusy : s.engine.busy = true) (hs : Q s.around) :
    ∃ k around, Q around ∧
      (reply.settle request).run.run s =
        ((reply.alone s.engine.runs).1,
          (s.withHost (reply.alone s.engine.runs).2).withRequests k around) := by
  induction reply generalizing s with
  | answers a host => exact ⟨0, s.around, hs, by simp [Scene.withRequests]; rfl⟩
  | breaks fault host => exact ⟨0, s.around, hs, by simp [Scene.withRequests]; rfl⟩
  | asks host resume ih =>
    obtain ⟨x, hx, hrequest⟩ := h (s.withHost host) hbusy hs
    let standing : Standing := ⟨.coalesced, true, s.engine.runs⟩
    let resumed : Scene σ ω := { s.withHost host with around := x }.visited (.asked standing)
    obtain ⟨k, around, haround, hrun⟩ := ih standing host (s := resumed) hbusy hx
    refine ⟨k + 1, around, haround, ?_⟩
    have hstep : ((Reply.asks host resume).settle request).run.run s =
        ((resume standing host).settle request).run.run resumed := by
      change (request >>= fun standing => _).run.run (s.withHost host) = _
      rw [run_run_bind, hrequest]
      rfl
    rw [hstep, hrun]
    simp [resumed, standing, Reply.alone, Scene.withRequests, Scene.withHost, Scene.visited,
      List.replicate_succ]

lemma run_makeCall (h : Drops Q request) (host : Host σ) (c : Call) {s : Scene σ ω}
    (hbusy : s.engine.busy = true) (hs : Q s.around) :
    ∃ k around, Q around ∧
      (makeCall host request c).run.run s =
        (((host c s.engine.host).alone s.engine.runs).1,
          ((s.visited (.made c)).withHost
            ((host c s.engine.host).alone s.engine.runs).2).withRequests k around) :=
  h.run_settle (host c s.engine.host) (s := s.visited (.made c)) hbusy hs

end Drops

/-! ### Beside the host that makes no request -/

/-- The call that was made, if it was one. -/
def Visit.call? : Visit → Option Call
  | made c => some c
  | asked _ => none

/-- The calls that were made to the host. -/
def Engine.calls (e : Engine σ) : List Call := e.visits.filterMap Visit.call?

lemma Scene.calls_visited_made (s : Scene σ ω) (c : Call) :
    (s.visited (.made c)).engine.calls = s.engine.calls ++ [c] := by
  simp [Engine.calls, Scene.visited, Visit.call?]

/-- Requests are no calls. -/
lemma Scene.calls_withRequests (s : Scene σ ω) (k : ℕ) (around : ω) :
    (s.withRequests k around).engine.calls = s.engine.calls := by
  simp [Engine.calls, Scene.withRequests, Visit.call?]

/-- Two scenes in the course of a reset that is the same but for the requests of the host. -/
structure Scene.Beside (Q : ω → Prop) (runs : ℕ) (s : Scene σ ω) (t : Scene σ ω') : Prop where
  host : s.engine.host = t.engine.host
  calls : s.engine.calls = t.engine.calls
  busy : s.engine.busy = true
  runs_left : s.engine.runs = runs
  runs_right : t.engine.runs = runs
  around : Q s.around

/-- A call is answered as it would be if the host made no request. -/
lemma agree_makeCall_muted {Q : ω → Prop} {request : Act σ ω Standing} (h : Drops Q request)
    (host : Host σ) (runs : ℕ) (ask : Act σ ω' Standing) (c : Call) :
    Agree (Scene.Beside Q runs) (makeCall host request c) (makeCall (host.muted runs) ask c) := by
  intro s t hst
  obtain ⟨k, around, haround, hrun⟩ := h.run_makeCall host c hst.busy hst.around
  rw [hrun, run_makeCall_muted, hst.runs_left, hst.host]
  refine ⟨rfl, rfl, ?_, hst.busy, hst.runs_left, hst.runs_right, haround⟩
  rw [Scene.calls_withRequests]
  change (s.visited (.made c)).engine.calls = (t.visited (.made c)).engine.calls
  rw [Scene.calls_visited_made, Scene.calls_visited_made, hst.calls]

/-- Two ways of asking that are the same while the engine is busy make no difference to a call. -/
lemma Drops.settle_congr {Q : ω → Prop} {ask ask' : Act σ ω Standing} (h : Drops Q ask)
    (hask : ∀ s, s.engine.busy = true → ask.run.run s = ask'.run.run s) (reply : Reply σ α)
    {s : Scene σ ω} (hbusy : s.engine.busy = true) (hs : Q s.around) :
    (reply.settle ask).run.run s = (reply.settle ask').run.run s := by
  induction reply generalizing s with
  | answers a host => rfl
  | breaks fault host => rfl
  | asks host resume ih =>
    obtain ⟨around, haround, hrun⟩ := h (s.withHost host) hbusy hs
    change (ask >>= fun standing => _).run.run (s.withHost host) =
      (ask' >>= fun standing => _).run.run (s.withHost host)
    rw [run_run_bind, run_run_bind, ← hask (s.withHost host) hbusy, hrun]
    exact ih _ host hbusy haround

/-- So they make no difference to a procedure. -/
lemma Drops.run_procedure_congr {Q : ω → Prop} {ask ask' : Act σ ω Standing} (h : Drops Q ask)
    (hask : ∀ s, s.engine.busy = true → ask.run.run s = ask'.run.run s) (host : Host σ)
    (p : Procedure α) {s : Scene σ ω} (hbusy : s.engine.busy = true) (hs : Q s.around) :
    (p.run (makeCall host ask)).run.run s = (p.run (makeCall host ask')).run.run s := by
  have hagree : Agree (fun s t => s = t ∧ s.engine.busy = true ∧ Q s.around)
      (p.run (makeCall host ask)) (p.run (makeCall host ask')) := by
    refine .procedure (fun c => ?_) p
    rintro s _ ⟨rfl, hbusy, hs⟩
    have hrun : (makeCall host ask c).run.run s = (makeCall host ask' c).run.run s :=
      h.settle_congr hask (host c s.engine.host) (s := s.visited (.made c)) hbusy hs
    obtain ⟨k, around, haround, hcall⟩ := h.run_makeCall host c hbusy hs
    rw [← hrun, hcall]
    exact ⟨rfl, rfl, hbusy, haround⟩
  obtain ⟨hresult, hstate, -⟩ := hagree s s ⟨rfl, hbusy, hs⟩
  exact Prod.ext hresult hstate

/-! ### One reset -/

/-- What comes of a request for a reset: the engine is free, and there is one run more if the reset
was completed, and none if a fault cut it short. -/
structure Settles (runs : ℕ) (r : Outcome × Scene σ ω) : Prop where
  free : r.2.engine.busy = false
  counted : (∃ report, r.1 = .completed report) ∧ r.2.engine.runs = runs + 1 ∨
    (∃ message, r.1 = .failed message) ∧ r.2.engine.runs = runs

/-- Two resets have gone the same way: the outcomes are the same, with their reports, and so are the
calls in their order and the states that the host was left in. -/
structure SameCourse (r : Outcome × Scene σ ω) (r' : Outcome × Scene σ ω') : Prop where
  outcome : r.1 = r'.1
  calls : r.2.engine.calls = r'.2.engine.calls
  host : r.2.engine.host = r'.2.engine.host

/-- A reset that finds the engine free leaves it free, and is completed or cut short by a fault. -/
lemma settles_reset (host : Host σ) (trace : Aside ω Unit) (helper : String) (reason : Reason)
    {s : Scene σ ω} (h : s.engine.busy = false) :
    Settles s.engine.runs ((reset host trace helper reason).run s) := by
  have hrun : Keeps (fun t : Scene σ ω => t.engine.runs = s.engine.runs)
      ((restart helper reason).run (makeCall host (dropRequest trace)) : Act σ ω Report) := by
    refine .procedure (.makeCall ⟨fun _ _ h => h, fun _ _ h => h⟩ ?_ host) _
    exact Keeps.bind (fun _ h => h) fun _ => Keeps.get.bind fun _ => .pure _
  have hruns := hrun s.taken rfl
  rw [run_reset_of_free host trace helper reason h]
  revert hruns
  rcases ((restart helper reason).run (makeCall host (dropRequest trace))).run.run s.taken with
    ⟨fault | report, t⟩
  · intro hruns
    exact ⟨rfl, .inr ⟨⟨_, rfl⟩, hruns⟩⟩
  · intro hruns
    exact ⟨rfl, .inl ⟨⟨_, rfl⟩, congrArg (· + 1) hruns⟩⟩

/-- A reset goes as it would on the host that makes no request. -/
lemma sameCourse_reset_muted {Q : ω → Prop} {trace : Aside ω Unit}
    (h : Ends Q trace (fun _ => Q) fun _ _ => False) (host : Host σ) (trace' : Aside ω' Unit)
    (helper : String) (reason : Reason) {s : Scene σ ω} {t : Scene σ ω'}
    (hengine : s.engine = t.engine) (hfree : s.engine.busy = false) (hs : Q s.around) :
    SameCourse ((reset host trace helper reason).run s)
      ((reset (host.muted s.engine.runs) trace' helper reason).run t) := by
  have hfree' : t.engine.busy = false := hengine ▸ hfree
  have htaken : s.taken.engine = t.taken.engine :=
    congrArg (fun e : Engine σ => { e with busy := true }) hengine
  have hbeside : Scene.Beside Q s.engine.runs s.taken t.taken :=
    ⟨congrArg Engine.host htaken, congrArg Engine.calls htaken, rfl, rfl,
      (congrArg Engine.runs htaken).symm, hs⟩
  obtain ⟨hresult, hscene⟩ := Agree.procedure
    (agree_makeCall_muted (drops_dropRequest h) host s.engine.runs (dropRequest trace'))
    (restart helper reason) _ _ hbeside
  rw [run_reset_of_free _ _ _ _ hfree, run_reset_of_free _ _ _ _ hfree']
  revert hresult hscene
  rcases ((restart helper reason).run (makeCall host (dropRequest trace))).run.run s.taken with
    ⟨fault | report, s'⟩ <;>
    rcases ((restart helper reason).run
      (makeCall (host.muted s.engine.runs) (dropRequest trace'))).run.run t.taken with
      ⟨fault' | report', t'⟩
  · rintro ⟨⟩ hscene
    exact ⟨rfl, hscene.calls, hscene.host⟩
  · rintro ⟨⟩
  · rintro ⟨⟩
  · rintro ⟨⟩ hscene
    exact ⟨rfl, hscene.calls, hscene.host⟩

/-! ### Where the host is at work -/

/-- The scenes in which the host has done a part of its work on a call: it is about to answer, to
break down, or to make a request. -/
def Reply.stages (request : Act σ ω Standing) : Reply σ α → Scene σ ω → List (Scene σ ω)
  | answers _ host, s => [s.withHost host]
  | breaks _ host, s => [s.withHost host]
  | asks host resume, s =>
    s.withHost host ::
      match request.run.run (s.withHost host) with
      | (.ok standing, t) =>
        (resume standing t.engine.host).stages request (t.visited (.asked standing))
      | (.error _, _) => []

/-- The scenes in which the host is at work while a procedure is carried out: those in which a call
reaches it, and the stages of its work on each. -/
def Procedure.stages (host : Host σ) (request : Act σ ω Standing) :
    Procedure α → Scene σ ω → List (Scene σ ω)
  | done _, _ => []
  | call c next, s =>
    s.visited (.made c) ::
      ((host c s.engine.host).stages request (s.visited (.made c)) ++
        match (makeCall host request c).run.run s with
        | (.ok answer, t) => (next answer).stages host request t
        | (.error _, _) => [])

/-- A stage at which a reset is under way after so many runs. -/
structure Scene.UnderWay (Q : ω → Prop) (runs : ℕ) (s : Scene σ ω) : Prop where
  busy : s.engine.busy = true
  runs : s.engine.runs = runs
  around : Q s.around

namespace Drops

variable {Q : ω → Prop} {request : Act σ ω Standing}

lemma underWay_of_mem_reply (h : Drops Q request) (reply : Reply σ α) {runs : ℕ}
    {s t : Scene σ ω} (hs : s.UnderWay Q runs) (ht : t ∈ reply.stages request s) :
    t.UnderWay Q runs := by
  induction reply generalizing s with
  | answers a host =>
    obtain rfl := List.mem_singleton.mp ht
    exact ⟨hs.busy, hs.runs, hs.around⟩
  | breaks fault host =>
    obtain rfl := List.mem_singleton.mp ht
    exact ⟨hs.busy, hs.runs, hs.around⟩
  | asks host resume ih =>
    obtain ⟨around, haround, hrequest⟩ := h (s.withHost host) hs.busy hs.around
    simp only [Reply.stages, hrequest, List.mem_cons] at ht
    rcases ht with rfl | ht
    · exact ⟨hs.busy, hs.runs, hs.around⟩
    · refine ih _ _ ?_ ht
      exact ⟨hs.busy, hs.runs, haround⟩

/-- Wherever the host is at work on a procedure, the reset is under way. -/
lemma underWay_of_mem (h : Drops Q request) (host : Host σ) (p : Procedure α) {runs : ℕ}
    {s t : Scene σ ω} (hs : s.UnderWay Q runs) (ht : t ∈ p.stages host request s) :
    t.UnderWay Q runs := by
  induction p generalizing s with
  | done a => cases ht
  | call c next ih =>
    have hmade : (s.visited (.made c)).UnderWay Q runs := ⟨hs.busy, hs.runs, hs.around⟩
    obtain ⟨k, around, haround, hrun⟩ := h.run_makeCall host c hs.busy hs.around
    simp only [Procedure.stages, hrun, List.mem_cons, List.mem_append] at ht
    rcases ht with rfl | ht | ht
    · exact hmade
    · exact h.underWay_of_mem_reply _ hmade ht
    · revert ht
      rcases ((host c s.engine.host).alone s.engine.runs).1 with fault | answer
      · intro ht
        cases ht
      · intro ht
        refine ih answer ?_ ht
        exact ⟨hs.busy, hs.runs, haround⟩

end Drops

/-- What it means for one reset that the host makes requests in its course. A request is what the
host does to ask for a further reset. -/
structure Undisturbed (host : Host σ) (trace : Aside ω Unit) (request : Act σ ω Standing)
    (helper : String) (reason : Reason) (s : Scene σ ω) : Prop where
  /-- Requests that are really made come to what dropping them does. -/
  made : ((restart helper reason).run (makeCall host request)).run.run s.taken =
    ((restart helper reason).run (makeCall host (dropRequest trace))).run.run s.taken
  /-- The engine is busy wherever the host is at work, and no run has been added. -/
  busy : ∀ t ∈ (restart helper reason).stages host request s.taken,
    t.engine.busy = true ∧ t.engine.runs = s.engine.runs
  /-- A request that is made there is dropped, and the engine stays as it was: there is no call and
  no run. -/
  dropped : ∀ t ∈ (restart helper reason).stages host request s.taken,
    ∃ around, request.run.run t = (.ok ⟨.coalesced, true, s.engine.runs⟩, { t with around })
  /-- The reset goes as it would on the host that makes no request. -/
  course : SameCourse ((reset host trace helper reason).run s)
    ((reset (host.muted s.engine.runs) (pure ()) helper reason).run s)
  settles : Settles s.engine.runs ((reset host trace helper reason).run s)

/-- A reset is undisturbed by requests that do what dropping them does, if their trace can be
left. -/
lemma undisturbed_of_drops {Q : ω → Prop} {trace : Aside ω Unit} {request : Act σ ω Standing}
    (htrace : Ends Q trace (fun _ => Q) fun _ _ => False)
    (hrequest : ∀ s : Scene σ ω, s.engine.busy = true →
      request.run.run s = (dropRequest trace).run.run s)
    (host : Host σ) (helper : String) (reason : Reason) {s : Scene σ ω}
    (hfree : s.engine.busy = false) (hs : Q s.around) :
    Undisturbed host trace request helper reason s := by
  have hdrops : Drops Q request := by
    intro t hbusy ht
    rw [hrequest t hbusy]
    exact drops_dropRequest htrace t hbusy ht
  have htaken : s.taken.UnderWay Q s.engine.runs := ⟨rfl, rfl, hs⟩
  constructor
  · exact hdrops.run_procedure_congr hrequest host _ rfl hs
  · intro t ht
    have hstage := hdrops.underWay_of_mem host _ htaken ht
    exact ⟨hstage.busy, hstage.runs⟩
  · intro t ht
    have hstage := hdrops.underWay_of_mem host _ htaken ht
    obtain ⟨around, -, hrun⟩ := hdrops t hstage.busy hstage.around
    rw [hstage.runs] at hrun
    exact ⟨around, hrun⟩
  · exact sameCourse_reset_muted htrace host (pure ()) helper reason rfl hfree hs
  · exact settles_reset host trace helper reason hfree

end ClipboardWatchdog
