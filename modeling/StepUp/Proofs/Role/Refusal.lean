import StepUp.Proofs.Role.Rule

/-!
# Patterns that are refused

There are two kinds of refusals. A pattern that is malformed (`Pattern.Refusal.Malformed`) makes its
rule grant nothing, and one warning says why (`RoleRules.evaluate_of_malformed`). Any other refusal
is a failure of the host, for which nobody is prepared: nothing is recorded, and the evaluation of
the rule fails as well (`RoleRules.evaluate_of_failing`). So a rule without a pattern to go by is
taken for one that grants nothing just if the pattern is malformed
(`RoleRules.evaluate_eq_warning_iff`).
-/

namespace StepUp

/-- The form of the pattern is at fault. -/
def Pattern.Refusal.Malformed (r : Pattern.Refusal) : Prop :=
  ∃ complaint position, r = .malformed complaint position

namespace RoleRules

variable {rules : RoleRules} {d : ServiceDefinition} {rule : RoleRule} {u : Authentication}
  {pattern : Text} {r : Pattern.Refusal} {f : HostFailure}

theorem hostFailure?_eq_none_iff : hostFailure? pattern r = none ↔ r.Malformed := by
  cases r with
  | malformed complaint position => exact ⟨fun _ => ⟨complaint, position, rfl⟩, fun _ => rfl⟩
  | hugeBound | oversizedBound | flagConflict => exact ⟨nofun, nofun⟩

/-- A refusal for another reason is an overflow or a value that the host does not take, and tells
the reason. -/
theorem hostFailure?_of_not_malformed (h : ¬ r.Malformed) (pattern : Text) :
    ∃ kind ∈ (["OverflowError", "ValueError"] : List Text),
      hostFailure? pattern r = some ⟨kind, r.message pattern⟩ := by
  cases r with
  | malformed complaint position => exact absurd ⟨complaint, position, rfl⟩ h
  | hugeBound => exact ⟨"OverflowError", List.mem_cons_self, rfl⟩
  | oversizedBound | flagConflict =>
    exact ⟨"ValueError", List.mem_cons_of_mem _ List.mem_cons_self, rfl⟩

/-- The warning about the pattern of a rule. -/
def warning (d : ServiceDefinition) (rule : RoleRule) (r : Pattern.Refusal) : LogRecord :=
  invalidPatternRecord d rule.pattern (r.message rule.pattern)

theorem evaluate_of_malformed (h : rules.States d rule)
    (hp : Pattern.compile rule.pattern = .error r) (hr : r.Malformed) :
    rules.evaluate u d = ⟨[warning d rule r], .ok []⟩ := by
  obtain ⟨h₁, h₂, h₃, h₄⟩ := states_iff.mp h
  have hform : hostFailure? rule.pattern r = none := hostFailure?_eq_none_iff.mpr hr
  simp only [evaluate, h₁, h₂, h₃, h₄, hp, hform, warning]

theorem evaluate_of_failing (h : rules.States d rule)
    (hp : Pattern.compile rule.pattern = .error r) (hf : hostFailure? rule.pattern r = some f) :
    rules.evaluate u d = ⟨[], .error f⟩ := by
  obtain ⟨h₁, h₂, h₃, h₄⟩ := states_iff.mp h
  simp only [evaluate, h₁, h₂, h₃, h₄, hp, hf]

theorem evaluate_eq_warning_iff (h : rules.States d rule)
    (hp : Pattern.compile rule.pattern = .error r) :
    rules.evaluate u d = ⟨[warning d rule r], .ok []⟩ ↔ r.Malformed := by
  refine ⟨fun hwarns => ?_, evaluate_of_malformed h hp⟩
  by_contra hform
  obtain ⟨kind, -, hf⟩ := hostFailure?_of_not_malformed hform rule.pattern
  rw [evaluate_of_failing h hp hf] at hwarns
  cases hwarns

end RoleRules

end StepUp
