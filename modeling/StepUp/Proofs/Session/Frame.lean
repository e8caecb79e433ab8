import StepUp.Proofs.Session.Step

/-!
# What a resolution leaves alone

A resolution has nine ways to end and two things that it can write. It writes the marker of the
request only where it rejects, and the requirement of the target only where it returns it; however
else it ends, and for all other requests and targets, everything is as it was before
(`step_resolve_frame`).
-/

namespace StepUp

namespace Chain.Ends

variable {chain : Chain} {a : Option Authentication} {c : RequestContext}
  {target : Option TargetService} {e : Ending}

theorem context_cases (h : chain.Ends a c target e) :
    e.context = c ∨ c.marker = false ∧ e.context = c.marked ∧
      chain.verifier.acceptance = .registered ∧ ∃ x, e.answer = .error (.rejected x) := by
  by_cases hx : ∃ x, e.answer = .error (.rejected x)
  · obtain ⟨x, hx⟩ := hx
    obtain ⟨real, unmarked, marked, -⟩ := h.of_rejected hx
    exact Or.inr ⟨unmarked, marked, real, x, hx⟩
  · exact Or.inl (h.context_eq (not_exists.mp hx))

theorem target_cases (h : chain.Ends a c target e) :
    e.target = target ∨ ∃ t q, target = some t ∧ t.requirement = none ∧
      e.target = some { t with requirement := some q } ∧ e.answer = .ok (some q) := by
  by_cases hq : ∃ q, e.answer = .ok (some q)
  · obtain ⟨q, hq⟩ := hq
    obtain ⟨t, -, rfl, -, -, -, bare | same, htarget⟩ := h.of_required hq
    · exact Or.inr ⟨t, q, rfl, bare, htarget, hq⟩
    · refine Or.inl (htarget.trans ?_)
      rw [← same]
  · exact Or.inl (h.target_eq (not_exists.mp hq))

end Chain.Ends

namespace Session

theorem step_resolve_contexts (s : Session) (n m : Text) (p : Option Principal) (k : Text) :
    (s.step (.resolve n m p)).1.contexts.lookup k = s.contexts.lookup k ∨
      k = n ∧ ∃ c x, s.contexts.lookup n = some c ∧ c.marker = false ∧
        (s.step (.resolve n m p)).1.contexts.lookup n = some c.marked ∧
        s.chain.verifier.acceptance = .registered ∧
        (s.step (.resolve n m p)).2.answer = .error (.resolution (.rejected x)) := by
  rcases s.step_resolve_cases n m p with ⟨name, hstep⟩ | ⟨c, t, hc, -, hstep⟩
  · exact Or.inl (by rw [hstep, refuse])
  · rw [hstep, resolve_contexts_lookup, resolve_contexts_lookup, if_pos rfl]
    by_cases hk : k = n
    · subst hk
      rw [if_pos rfl, hc]
      have hends := s.chain.ends_resolve (p.map Authentication.mk) t c
      rcases hends.context_cases with hsame | ⟨unmarked, marked, real, x, hx⟩
      · exact Or.inl (congrArg some hsame)
      · exact Or.inr ⟨rfl, c, x, rfl, unmarked, congrArg some marked, real,
          resolve_answer_error_iff.mpr hx⟩
    · exact Or.inl (if_neg hk)

theorem step_resolve_targets (s : Session) (n m : Text) (p : Option Principal) (k : Text) :
    (s.step (.resolve n m p)).1.targets.lookup k = s.targets.lookup k ∨
      k = m ∧ ∃ t q, s.targets.lookup m = some (some t) ∧ t.requirement = none ∧
        (s.step (.resolve n m p)).1.targets.lookup m =
          some (some { t with requirement := some q }) ∧
        (s.step (.resolve n m p)).2.answer = .ok (.requirement (some q)) := by
  rcases s.step_resolve_cases n m p with ⟨name, hstep⟩ | ⟨c, t, -, ht, hstep⟩
  · exact Or.inl (by rw [hstep, refuse])
  · rw [hstep, resolve_targets_lookup, resolve_targets_lookup, if_pos rfl]
    by_cases hk : k = m
    · subst hk
      rw [if_pos rfl, ht]
      have hends := s.chain.ends_resolve (p.map Authentication.mk) t c
      rcases hends.target_cases with hsame | ⟨t, q, rfl, bare, given, hq⟩
      · exact Or.inl (congrArg some hsame)
      · exact Or.inr ⟨rfl, t, q, rfl, bare, congrArg some given, resolve_answer_ok_iff.mpr hq⟩
    · exact Or.inl (if_neg hk)

/-- **What a resolution changes.** One that is rejected by a verifier that goes by its registry
sets the marker of its request, which was not set; one that returns a requirement gives it to its
target, if that had none. Nothing else of this request and this target changes, nor does any
other request or target, the chain, the services, the store or the sink. -/
theorem step_resolve_frame (s : Session) (n m : Text) (p : Option Principal) :
    let next := (s.step (.resolve n m p)).1
    let answer := (s.step (.resolve n m p)).2.answer
    (∀ k, next.contexts.lookup k = s.contexts.lookup k ∨
        k = n ∧ ∃ c x, s.contexts.lookup n = some c ∧ c.marker = false ∧
          next.contexts.lookup n = some { c with marker := true } ∧
          s.chain.verifier.acceptance = .registered ∧
          answer = .error (.resolution (.rejected x))) ∧
      (∀ k, next.targets.lookup k = s.targets.lookup k ∨
        k = m ∧ ∃ t q, s.targets.lookup m = some (some t) ∧ t.requirement = none ∧
          next.targets.lookup m = some (some { t with requirement := some q }) ∧
          answer = .ok (.requirement (some q))) ∧
      next.chain = s.chain ∧ next.services = s.services ∧ next.store = s.store ∧
        next.sink = s.sink := by
  intro next answer
  refine ⟨s.step_resolve_contexts n m p, s.step_resolve_targets n m p, ?_⟩
  have hnext : next = (s.step (.resolve n m p)).1 := rfl
  rcases s.step_resolve_cases n m p with ⟨name, hstep⟩ | ⟨c, t, -, -, hstep⟩
  · rw [hnext, hstep]
    exact ⟨rfl, rfl, rfl, rfl⟩
  · rw [hnext, hstep]
    exact ⟨rfl, rfl, rfl, rfl⟩

end Session

end StepUp
