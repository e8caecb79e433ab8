import StepUp.Proofs.Session.Run

/-!
# The resolutions of a run

A step that resolves for a request and a target that are known is a call: `Call` says which chain
is asked and about what. Only calls are audited:

* `step_audit`: the event of a call is written if the sink takes it, and nothing else is;
* `audit_eq_of_takes`: so a run writes the events of all its calls, or nothing, to a sink that does
  not take one event and refuse another.
-/

namespace StepUp

/-- A resolution that is asked for. -/
structure Call where
  chain : Chain
  user : Option Authentication
  target : Option TargetService
  context : RequestContext

namespace Call

/-- What the call comes to. -/
def resolution (k : Call) : Resolution := k.chain.resolve k.user k.target k.context

/-- What a step that makes the call answers. -/
def answer (k : Call) : Except SessionFault SessionReply :=
  match k.resolution.answer with
  | .ok requirement => .ok (.requirement requirement)
  | .error f => .error (.resolution f)

/-- The events of calls, in order. -/
def events (ks : List Call) : List AuditEvent := ks.flatMap fun k => k.resolution.event.toList

end Call

namespace Session

variable {s : Session} {n m : Text} {st : SessionStep} {k : Call} {steps : List SessionStep}

/-- The call that a step makes, if any. -/
def call? (s : Session) : SessionStep → Option Call
  | .resolve n m p =>
    match s.contexts.lookup n, s.targets.lookup m with
    | some c, some t => some ⟨s.chain, p.map Authentication.mk, t, c⟩
    | _, _ => none
  | _ => none

/-- The calls of a run, in order. -/
def calls (s : Session) : List SessionStep → List Call
  | [] => []
  | st :: rest => (s.call? st).toList ++ (s.step st).1.calls rest

/-- The audit events that a run writes. -/
def audit (s : Session) (steps : List SessionStep) : List AuditEvent :=
  (s.run steps).flatMap fun x => x.2.audit

/-- Whether the sink, if there is one, would take an event now. -/
def takes (s : Session) : Bool :=
  match s.sink with
  | some sink => (sink.errorOf s.attempts).isNone
  | none => false

/-! ## One step -/

theorem call?_eq_some_iff : s.call? st = some k ↔
    ∃ n m p, st = .resolve n m p ∧ s.contexts.lookup n = some k.context ∧
      s.targets.lookup m = some k.target ∧ k.chain = s.chain ∧
      k.user = p.map Authentication.mk := by
  constructor
  · intro h
    cases st with
    | resolve n m p =>
      cases hc : s.contexts.lookup n with
      | none => simp [call?, hc] at h
      | some c =>
        cases ht : s.targets.lookup m with
        | none => simp [call?, hc, ht] at h
        | some t =>
          simp only [call?, hc, ht, Option.some.injEq] at h
          subst h
          exact ⟨n, m, p, rfl, hc, ht, rfl, rfl⟩
    | _ => cases h
  · rintro ⟨n, m, p, rfl, hc, ht, hchain, huser⟩
    simp only [call?, hc, ht, ← hchain, ← huser]

/-- A step that makes a call does what the call comes to. -/
theorem step_of_call (h : s.call? st = some k) :
    ∃ n m, st.context? = some n ∧ st.target? = some m ∧ k.chain = s.chain ∧
      s.step st = s.resolve n m k.user k.context k.target := by
  obtain ⟨n, m, p, rfl, hc, ht, hchain, huser⟩ := call?_eq_some_iff.mp h
  exact ⟨n, m, rfl, rfl, hchain, by rw [step_resolve hc ht, huser]⟩

theorem step_answer_of_call (h : s.call? st = some k) : (s.step st).2.answer = k.answer := by
  obtain ⟨n, m, -, -, hchain, hstep⟩ := step_of_call h
  rw [hstep, Call.answer, Call.resolution, hchain]
  rfl

/-- A step that makes no call writes no event. -/
theorem step_audit_of_no_call (h : s.call? st = none) : (s.step st).2.audit = [] := by
  refine step_reports (P := fun reaction => reaction.audit = []) (fun _ => rfl) ?_
    fun _ _ _ _ _ _ _ _ => rfl
  rintro n m p c t rfl hc ht
  simp only [call?, hc, ht] at h
  cases h

theorem resolve_audit (s : Session) (n m : Text) (a : Option Authentication) (c : RequestContext)
    (t : Option TargetService) : (s.resolve n m a c t).2.audit =
      if s.takes then (s.chain.resolve a t c).event.toList else [] := by
  unfold resolve takes
  dsimp only
  cases s.sink with
  | none => rfl
  | some sink =>
    cases (s.chain.resolve a t c).event with
    | none => simp [Delivery.of]
    | some e => cases herror : sink.errorOf s.attempts <;> simp [Delivery.of, herror]

/-- What a step writes: the event of its call, if the sink takes it. -/
theorem step_audit (s : Session) (st : SessionStep) : (s.step st).2.audit =
    if s.takes then Call.events (s.call? st).toList else [] := by
  cases h : s.call? st with
  | none => simp [step_audit_of_no_call h, Call.events]
  | some k =>
    obtain ⟨n, m, -, -, hchain, hstep⟩ := step_of_call h
    rw [hstep, resolve_audit, ← hchain, Option.toList_some, Call.events, List.flatMap_singleton,
      Call.resolution]

/-! ## A run -/

/-- A run writes the events of all its calls to a sink that takes every event, and nothing to one
that takes none. -/
theorem audit_eq_of_takes {b : Bool} (h : ∀ s' : Session, s'.sink = s.sink → s'.takes = b) :
    s.audit steps = if b then Call.events (s.calls steps) else [] := by
  induction steps generalizing s with
  | nil => cases b <;> rfl
  | cons st rest ih =>
    have hrest := ih (s := (s.step st).1) fun s' hs' => h s' (hs'.trans (s.step_sink st))
    have hstep := s.step_audit st
    rw [h s rfl] at hstep
    unfold audit at hrest ⊢
    rw [run, List.flatMap_cons, hstep, hrest, calls]
    cases b with
    | false => rfl
    | true => exact List.flatMap_append.symm

end Session

end StepUp
