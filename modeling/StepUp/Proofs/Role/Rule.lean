import StepUp.Proofs.Resolver
import StepUp.Proofs.Role.Selection

/-!
# What a role rule grants

A definition states a rule when attribute name, pattern and method are all there, not empty, and
the method is registered (`RoleRules.States`); it states at most one. A rule fits a user when its
pattern can be read and describes one of the roles that the user holds (`RoleRule.Fits`). A rule
grants nothing but its own method (`RoleRules.granted_cases`), so that every policy selects the
first of several grants (`RoleRules.select?_granted`).
-/

namespace StepUp

/-! ## Rules -/

/-- What a definition states about roles: the attribute that holds them, the pattern for those
that count, and the method that they demand. -/
structure RoleRule where
  attributeName : Text
  pattern : Text
  method : Method

namespace RoleRule

/-- The user holds the role: it is a text among the values of the attribute, and not blank. -/
def HeldBy (role : Text) (rule : RoleRule) (u : Principal) : Prop :=
  .str role ∈ u.attributeEntries rule.attributeName ∧ role.isBlank = false

/-- The pattern can be read and describes a role that the user holds. -/
def Fits (rule : RoleRule) (u : Principal) : Prop :=
  ∃ p role, Pattern.compile rule.pattern = .ok p ∧ HeldBy role rule u ∧ p.describes role = true

/-- The pattern is refused for another reason than its form, which fails the evaluation. -/
def Breaks (rule : RoleRule) (f : HostFailure) : Prop :=
  ∃ r, Pattern.compile rule.pattern = .error r ∧ RoleRules.hostFailure? rule.pattern r = some f

end RoleRule

namespace RoleRules

variable {rules : RoleRules} {d : ServiceDefinition} {rule : RoleRule} {a : Authentication}
  {p : Pattern} {m : Method}

/-- The definition states the rule, and its method is registered. -/
structure States (rules : RoleRules) (d : ServiceDefinition) (rule : RoleRule) : Prop where
  attributeName : d.property? ServiceDefinition.roleAttributeProperty = some rule.attributeName
  attributeName_ne : rule.attributeName ≠ []
  pattern : d.property? ServiceDefinition.rolePatternProperty = some rule.pattern
  pattern_ne : rule.pattern ≠ []
  method : d.property? rules.methodProperty = some rule.method.name
  method_ne : rule.method.name ≠ []
  member : rule.method ∈ rules.registry.methods

theorem property?_eq_some_iff {key v : Text} :
    property? d key = some v ↔ d.property? key = some v ∧ v ≠ [] := by
  unfold property?
  rw [Option.filter_eq_some_iff]
  simp

theorem states_iff : rules.States d rule ↔
    property? d ServiceDefinition.roleAttributeProperty = some rule.attributeName ∧
      property? d ServiceDefinition.rolePatternProperty = some rule.pattern ∧
        property? d rules.methodProperty = some rule.method.name ∧
          rules.registry.get? rule.method.name = some rule.method := by
  simp only [property?_eq_some_iff, Registry.get?_eq_some_iff, and_true]
  constructor
  · rintro ⟨h₁, h₂, h₃, h₄, h₅, h₆, h₇⟩
    exact ⟨⟨h₁, h₂⟩, ⟨h₃, h₄⟩, ⟨h₅, h₆⟩, h₇⟩
  · rintro ⟨⟨h₁, h₂⟩, ⟨h₃, h₄⟩, ⟨h₅, h₆⟩, h₇⟩
    exact ⟨h₁, h₂, h₃, h₄, h₅, h₆, h₇⟩

theorem mem_grantsOf_iff {g : RoleGrant} : g ∈ grantsOf p m a.principal rule.attributeName ↔
    g.method = m ∧ RoleRule.HeldBy g.role rule a.principal ∧ p.describes g.role = true := by
  obtain ⟨m', role⟩ := g
  simp only [grantsOf, List.mem_map, List.mem_filter, Principal.mem_attributeValues_iff,
    RoleGrant.mk.injEq, RoleRule.HeldBy]
  constructor
  · rintro ⟨_, h, rfl, rfl⟩
    exact ⟨rfl, h⟩
  · rintro ⟨rfl, h⟩
    exact ⟨role, h, rfl, rfl⟩

theorem evaluate_of_read (h : rules.States d rule) (hp : Pattern.compile rule.pattern = .ok p) :
    (rules.evaluate a d).grants =
      .ok (grantsOf p rule.method a.principal rule.attributeName) := by
  obtain ⟨h₁, h₂, h₃, h₄⟩ := states_iff.mp h
  simp only [evaluate, h₁, h₂, h₃, h₄, hp]

theorem evaluate_of_refused {r : Pattern.Refusal} (h : rules.States d rule)
    (hp : Pattern.compile rule.pattern = .error r) :
    (rules.evaluate a d).grants =
      match hostFailure? rule.pattern r with
      | some f => .error f
      | none => .ok [] := by
  obtain ⟨h₁, h₂, h₃, h₄⟩ := states_iff.mp h
  simp only [evaluate, h₁, h₂, h₃, h₄, hp]
  cases hostFailure? rule.pattern r <;> rfl

/-- A definition that states no rule grants nothing, and a record below a warning says why. -/
theorem evaluate_quietly_of_unstated (h : ∀ rule, ¬ rules.States d rule) :
    ∃ x, x.level.reaches .warning = false ∧ rules.evaluate a d = ⟨[x], .ok []⟩ := by
  unfold evaluate
  split
  · next attributeName pattern name h₁ h₂ h₃ =>
    split
    · exact ⟨_, rfl, rfl⟩
    · next m h₄ =>
      have hname := (Registry.get?_eq_some_iff.mp h₄).2
      subst hname
      exact absurd (states_iff.mpr ⟨h₁, h₂, h₃, h₄⟩) (h ⟨attributeName, pattern, m⟩)
  · exact ⟨_, rfl, rfl⟩

theorem evaluate_of_unstated (h : ∀ rule, ¬ rules.States d rule) :
    ∃ x, rules.evaluate a d = ⟨[x], .ok []⟩ :=
  (evaluate_quietly_of_unstated h).imp fun _ hx => hx.2

/-- A definition grants nothing but the method of the rule that it states. -/
theorem granted_cases {gs : List RoleGrant} (h : (rules.evaluate a d).grants = .ok gs) :
    gs = [] ∨ ∃ rule, rules.States d rule ∧ ∀ g ∈ gs, g.method = rule.method := by
  by_cases hstated : ∃ rule, rules.States d rule
  · obtain ⟨rule, hstates⟩ := hstated
    cases hp : Pattern.compile rule.pattern with
    | ok p =>
      rw [evaluate_of_read hstates hp] at h
      cases h
      exact Or.inr ⟨rule, hstates, fun g hg => (mem_grantsOf_iff.mp hg).1⟩
    | error r =>
      rw [evaluate_of_refused hstates hp] at h
      cases hf : hostFailure? rule.pattern r with
      | none =>
        rw [hf] at h
        cases h
        exact Or.inl rfl
      | some f =>
        rw [hf] at h
        cases h
  · obtain ⟨x, hevaluate⟩ := evaluate_of_unstated (a := a) (not_exists.mp hstated)
    rw [hevaluate] at h
    cases h
    exact Or.inl rfl

/-- So every policy selects the first of what it grants. -/
theorem select?_granted {gs : List RoleGrant} (h : (rules.evaluate a d).grants = .ok gs)
    (s : RoleSelection) : s.select? gs = gs.head? := by
  rcases granted_cases h with rfl | ⟨rule, -, hmethod⟩
  · rfl
  · exact RoleSelection.select?_eq_head? s hmethod

end RoleRules

end StepUp
