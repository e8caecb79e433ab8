import StepUp.Proofs.Method.Registry
import StepUp.Verifier

/-!
# What a verification does

A verification ends in one of three ways. A method that the verifier accepts is supported and the
request stays as it was (`verify_of_accepts`). A method that it refuses is rejected when the
request is not marked, which marks it (`verify_of_unmarked`), and let pass when it is marked, which
changes nothing (`verify_of_marked`). Only a verifier that goes by its registry refuses a method,
and then just the names that are not in it (`refuses_some_iff`).
-/

namespace StepUp

namespace RequestContext

/-- The same request, marked. -/
def marked (c : RequestContext) : RequestContext := { c with marker := true }

@[simp] theorem marked_marker (c : RequestContext) : c.marked.marker = true := rfl

theorem mark_of_unmarked {c : RequestContext} (h : c.marker = false) :
    c.mark = (true, c.marked) := by
  simp [mark, marked, h]

theorem mark_of_marked {c : RequestContext} (h : c.marker = true) : c.mark = (false, c) := by
  simp [mark, h]

end RequestContext

namespace Verifier

variable {v : Verifier} {method : Option Text} {name : Text}

/-- The verifier does not let the method through: it goes by its registry, which does not have
it. -/
def Refuses (v : Verifier) (method : Option Text) : Prop :=
  v.acceptance = .registered ∧ v.registry.supports method = false

theorem not_accepts_iff : v.accepts method = false ↔ v.Refuses method := by
  unfold accepts Refuses
  cases v.acceptance <;> simp

theorem refuses_some_iff :
    v.Refuses (some name) ↔ v.acceptance = .registered ∧ name ∉ v.registry.names := by
  rw [Refuses, ← Registry.supports_some_iff, Bool.not_eq_true]

theorem accepts_of_mem (h : name ∈ v.registry.names) : v.accepts (some name) = true := by
  by_contra hne
  have hr := not_accepts_iff.mp (Bool.not_eq_true _ ▸ hne)
  exact (refuses_some_iff.mp hr).2 h

theorem verify_of_accepts (h : v.accepts method = true) (t : TargetService)
    (c : RequestContext) : v.verify method t c = ⟨.supported, c, []⟩ := by
  simp [verify, h]

theorem verify_of_unmarked (h : v.Refuses method) (t : TargetService) {c : RequestContext}
    (hc : c.marker = false) :
    v.verify method t c = ⟨.rejected ⟨method, some t.id⟩, c.marked,
      [unsupportedRecord ⟨method, some t.id⟩ c]⟩ := by
  simp [verify, not_accepts_iff.mpr h, RequestContext.mark_of_unmarked hc]

theorem verify_of_marked (h : v.Refuses method) (t : TargetService) {c : RequestContext}
    (hc : c.marker = true) :
    v.verify method t c = ⟨.suppressed, c, [unsupportedRecord ⟨method, some t.id⟩ c,
      suppressedRecord ⟨method, some t.id⟩ c]⟩ := by
  simp [verify, not_accepts_iff.mpr h, RequestContext.mark_of_marked hc]

end Verifier

end StepUp
