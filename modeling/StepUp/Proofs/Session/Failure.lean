import StepUp.Proofs.Session.Audit

/-!
# Failures in the audit log

A resolution fails where the resolver that settles the matter does, where the target has another
requirement, and where a verifier that accepts everything lets a name through that no method has.
The first two are told by an event that says what went wrong. The third one is not told
(`failure_audited_iff`), not even with a sink that works: `unregistered_failure_unaudited` is such
a failure. A verifier that goes by its registry rules it out.
-/

namespace StepUp

theorem Chain.describe_isInfix_failureReason (resolver : Text) (f : HostFailure) :
    f.describe <:+: failureReason resolver f :=
  ⟨"Method resolver '" ++ resolver ++ "' failed unexpectedly: ",
    ". Cannot determine required authentication method.", rfl⟩

namespace Call

variable {k : Call} {reason : Text}

/-- The candidate passes the verifier, which accepts everything, although no method has the
name. -/
def Unregistered (k : Call) : Prop :=
  k.chain.verifier.acceptance = .everything ∧
    ∃ r m, k.Candidate r m ∧ m ∉ k.chain.verifier.registry.names

/-- The event says that the call failed and, with a part of the reason, what went wrong. -/
structure TellsFailure (reason : Text) (e : AuditEvent) : Prop where
  outcome : e.outcome = .failed
  error : ∃ error, e.error = some error ∧ error ≠ [] ∧ error <:+: reason

theorem Candidate.unique {r r' : Resolver} {m m' : Text} (h : k.Candidate r m)
    (h' : k.Candidate r' m') : m = m' := by
  obtain ⟨t, ht, proposed⟩ := h
  obtain ⟨t', ht', proposed'⟩ := h'
  cases ht.symm.trans ht'
  have hfound := (Chain.find_of_proposes proposed).symm.trans (Chain.find_of_proposes proposed')
  injection hfound

/-- A call that fails is told by an event that says so, or its candidate is not registered and no
event tells it. -/
theorem failure_cases (h : k.resolution.answer = .error (.failed reason)) :
    (¬ k.Unregistered ∧ ∃ e, k.resolution.event = some e ∧ TellsFailure reason e) ∨
      (k.Unregistered ∧ k.resolution.event = none ∧ ∃ m, reason = Chain.missingReason m) := by
  obtain ⟨chain, user, target, context⟩ := k
  obtain ⟨ending, hends⟩ := chain.exists_ends user context target
  have hending := Chain.ending_of_ends hends
  have hanswer := (congrArg Ending.answer hending).symm.trans h
  have hevent := congrArg Ending.event hending
  cases hends with
  | noTarget | noCandidate | rejected | suppressed | required | again => cases hanswer
  | @failed t r f raised =>
    cases hanswer
    refine Or.inl ⟨?_, _, hevent, rfl, _, rfl, f.describe_ne_nil,
      Chain.describe_isInfix_failureReason r.name f⟩
    rintro ⟨-, r', m, ⟨t', ht, proposed⟩, -⟩
    cases ht
    -- the chain comes either to a failure or to a candidate
    have hfound := (Chain.find_of_raises raised).symm.trans (Chain.find_of_proposes proposed)
    cases hfound
  | @conflicting t r method existing proposed member =>
    cases hanswer
    refine Or.inl ⟨?_, _, hevent, rfl, _, rfl, Chain.conflictReason_ne_nil _ _ _,
      List.infix_rfl⟩
    rintro ⟨-, r', m, candidate, unsupported⟩
    have hname := Candidate.unique candidate ⟨t, rfl, proposed⟩
    exact unsupported (hname ▸ Registry.name_mem_names member)
  | @unregistered t r m proposed lax unsupported =>
    cases hanswer
    exact Or.inr ⟨⟨lax, r, m, ⟨t, rfl, proposed⟩, unsupported⟩, hevent, m, rfl⟩

end Call

namespace Session

/-- **When a failure is audited.** With a sink that works, a resolution that fails is told by one
event, which says that it failed and what went wrong, exactly if its candidate, where it has come
to one, is not an unregistered name that the verifier let through. Otherwise nothing is
written. -/
theorem failure_audited_iff {s : Session} (working : s.sink = some .working) {n m : Text}
    {p : Option Principal} {reason : Text}
    (failed : (s.step (.resolve n m p)).2.answer = .error (.resolution (.failed reason))) :
    ∃ k, s.call? (.resolve n m p) = some k ∧
      ((∃ e, (s.step (.resolve n m p)).2.audit = [e] ∧ Call.TellsFailure reason e) ↔
        ¬ k.Unregistered) ∧
      (k.Unregistered → (s.step (.resolve n m p)).2.audit = [] ∧
        ∃ name, reason = Chain.missingReason name) := by
  rcases s.step_resolve_cases n m p with ⟨name, hstep⟩ | ⟨c, t, hc, ht, hstep⟩
  · rw [hstep] at failed
    cases failed
  · let k : Call := ⟨s.chain, p.map Authentication.mk, t, c⟩
    have hcall : s.call? (.resolve n m p) = some k := by simp only [call?, hc, ht, k]
    have hfailed : k.resolution.answer = .error (.failed reason) := by
      rw [hstep] at failed
      exact resolve_answer_error_iff.mp failed
    have haudit := s.step_audit (.resolve n m p)
    rw [if_pos (takes_of_working working), hcall, Option.toList_some, Call.events,
      List.flatMap_singleton] at haudit
    refine ⟨k, hcall, ?_⟩
    rw [haudit]
    rcases Call.failure_cases hfailed with
      ⟨registered, e, hevent, htells⟩ | ⟨unregistered, hevent, hreason⟩
    · rw [hevent]
      exact ⟨⟨fun _ => registered, fun _ => ⟨e, rfl, htells⟩⟩, fun h => absurd h registered⟩
    · rw [hevent]
      refine ⟨⟨?_, fun h => absurd unregistered h⟩, fun _ => ⟨rfl, hreason⟩⟩
      rintro ⟨e, hnil, -⟩
      cases hnil

/-- The store of the host is down, which the log says. -/
theorem failure_audited_iff_down :
    let down : HostFailure := ⟨"OSError", "store is down"⟩
    let chain : Chain := ⟨[.failing .mfaRole down], { registry := .empty }⟩
    let s : Session :=
      { assemble := fun _ => chain
        services := .ofList []
        store := .absent
        sink := some .working
        contexts := [("r", ⟨[], [], "r1", false⟩)]
        targets := [("t", some { id := "app" })] }
    let reason := Chain.failureReason "FailingResolver" down
    (s.step (.resolve "r" "t" none)).2.answer = .error (.resolution (.failed reason)) ∧
      ∃ e, (s.step (.resolve "r" "t" none)).2.audit = [e] ∧ Call.TellsFailure reason e := by
  intro down chain s reason
  have failed : (s.step (.resolve "r" "t" none)).2.answer =
      .error (.resolution (.failed reason)) := rfl
  obtain ⟨k, hcall, haudited, -⟩ := failure_audited_iff rfl failed
  refine ⟨failed, haudited.mpr ?_⟩
  cases hcall
  rintro ⟨lax, -⟩
  cases lax

/-- A failure that the log does not tell: the verifier accepts a name that no method has. -/
theorem unregistered_failure_unaudited :
    let chain : Chain := ⟨[.fixed .requestParameter (some "ghost")],
      { registry := .empty, acceptance := .everything }⟩
    let s : Session :=
      { assemble := fun _ => chain
        services := .ofList []
        store := .absent
        sink := some .working
        contexts := [("r", ⟨[], [], "r1", false⟩)]
        targets := [("t", some { id := "app" })] }
    (s.step (.resolve "r" "t" none)).2.answer =
        .error (.resolution (.failed (Chain.missingReason "ghost"))) ∧
      (s.step (.resolve "r" "t" none)).2.audit = [] :=
  ⟨rfl, rfl⟩

end Session

end StepUp
