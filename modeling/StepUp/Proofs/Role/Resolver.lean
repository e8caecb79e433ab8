import StepUp.Proofs.Role.Rule
import StepUp.Role.Resolver

/-!
# What the role resolver proposes

The resolver puts the user behind the ticket of the flow to the rule that the definition of the
target states (`RoleRules.Applies`). It proposes the method of the rule if the rule fits the user
(`Resolver.mfaRole_of_fits`), fails if the pattern breaks the evaluation
(`Resolver.mfaRole_of_breaks`), and abstains otherwise (`Resolver.mfaRole_of_neither`). The policy
for the selection among several grants does not matter.
-/

namespace StepUp

theorem RequestContext.ticket?_eq_some_iff {c : RequestContext} {ticket : Text} :
    c.ticket? = some ticket ↔
      c.flowScope.lookup ticketKey = some (.str ticket) ∧ ticket.isBlank = false := by
  unfold ticket?
  split
  · next t ht =>
    rw [ht]
    cases hblank : t.isBlank with
    | true =>
      simp only [if_true, reduceCtorEq, Option.some.injEq, Json.str.injEq, false_iff, not_and]
      rintro rfl
      simp [hblank]
    | false =>
      simp only [Bool.false_eq_true, if_false, Option.some.injEq, Json.str.injEq]
      exact ⟨fun h => ⟨h, h ▸ hblank⟩, fun h => h.1⟩
  · next hother =>
    refine ⟨nofun, fun h => ?_⟩
    exact absurd h.1 (hother ticket)

/-- The definition of the target states the rule, and the user has logged in with the ticket of
the flow. -/
structure RoleRules.Applies (rules : RoleRules) (services : ServiceDirectory)
    (store : AuthenticationStore) (t : TargetService) (c : RequestContext) (rule : RoleRule)
    (u : Authentication) : Prop where
  stated : ∃ d, services.find t.id = .ok (some d) ∧ rules.States d rule
  active : ∃ ticket, c.ticket? = some ticket ∧ store.find ticket = .ok (some u)

namespace Resolver

variable {a : Option Authentication} {t : TargetService} {c : RequestContext}
  {rules : RoleRules} {services : ServiceDirectory} {store : AuthenticationStore}
  {selection : RoleSelection} {rule : RoleRule} {u : Authentication} {d : ServiceDefinition}

/-! ## From a finding to a proposal -/

theorem ofFinding_of_ok {finding : RoleFinding} {gs : List RoleGrant}
    (h : finding.grants = .ok gs) :
    (ofFinding selection d c finding).outcome =
      .ok ((selection.select? gs).map fun g => g.method.name) := by
  simp only [ofFinding, h]
  cases selection.select? gs <;> rfl

theorem ofFinding_of_error {finding : RoleFinding} {f : HostFailure}
    (h : finding.grants = .error f) :
    (ofFinding selection d c finding).outcome = .error f := by
  simp only [ofFinding, h]

theorem ofFinding_of_role {p : Pattern} {role : Text} (h : rules.States d rule)
    (hp : Pattern.compile rule.pattern = .ok p)
    (hrole : RoleRule.HeldBy role rule u.principal ∧ p.describes role = true) :
    (ofFinding selection d c (rules.evaluate u d)).outcome = .ok (some rule.method.name) := by
  rw [ofFinding_of_ok (RoleRules.evaluate_of_read h hp)]
  have hmem := RoleRules.mem_grantsOf_iff (g := ⟨rule.method, role⟩).mpr ⟨rfl, hrole⟩
  cases hs : selection.select? (RoleRules.grantsOf p rule.method u.principal rule.attributeName) with
  | none =>
    rw [RoleSelection.select?_eq_none_iff.mp hs] at hmem
    cases hmem
  | some g =>
    -- which of the grants is selected does not matter: they are all for the rule's method
    have hg := RoleRules.mem_grantsOf_iff.mp (RoleSelection.mem_of_select? hs)
    rw [Option.map_some, hg.1]

theorem ofFinding_of_no_role {p : Pattern} (h : rules.States d rule)
    (hp : Pattern.compile rule.pattern = .ok p)
    (hnone : ∀ role, ¬ (RoleRule.HeldBy role rule u.principal ∧ p.describes role = true)) :
    (ofFinding selection d c (rules.evaluate u d)).outcome = .ok none := by
  rw [ofFinding_of_ok (RoleRules.evaluate_of_read h hp)]
  have hnil : RoleRules.grantsOf p rule.method u.principal rule.attributeName = [] :=
    List.eq_nil_iff_forall_not_mem.mpr fun g hg =>
      hnone g.role (RoleRules.mem_grantsOf_iff.mp hg).2
  rw [RoleSelection.select?_eq_none_iff.mpr hnil, Option.map_none]

theorem ofFinding_selection (selection' : RoleSelection) :
    ofFinding selection d c (rules.evaluate u d) = ofFinding selection' d c (rules.evaluate u d) := by
  unfold ofFinding
  cases h : (rules.evaluate u d).grants with
  | error f => rfl
  | ok gs =>
    dsimp only
    rw [RoleRules.select?_granted h, RoleRules.select?_granted h]

/-- What is proposed is the method of the rule that the definition states. -/
theorem ofFinding_proposes {m : Text}
    (h : (ofFinding selection d c (rules.evaluate u d)).outcome = .ok (some m)) :
    ∃ rule, rules.States d rule ∧ m = rule.method.name := by
  cases hgrants : (rules.evaluate u d).grants with
  | error f =>
    rw [ofFinding_of_error hgrants] at h
    cases h
  | ok gs =>
    rw [ofFinding_of_ok hgrants, Except.ok.injEq, Option.map_eq_some_iff] at h
    obtain ⟨g, hg, rfl⟩ := h
    have hmem := RoleSelection.mem_of_select? hg
    rcases RoleRules.granted_cases hgrants with rfl | ⟨rule, hstates, hmethod⟩
    · cases hmem
    · exact ⟨rule, hstates, congrArg Method.name (hmethod g hmem)⟩

/-! ## The resolver -/

/-- The policy does not matter, not even for what is recorded. -/
theorem mfaRole_selection (rules : RoleRules) (services : ServiceDirectory)
    (store : AuthenticationStore) (selection selection' : RoleSelection) :
    mfaRole rules services store selection = mfaRole rules services store selection' := by
  unfold mfaRole
  simp only [ofFinding_selection selection']

theorem mfaRole_of_active (hactive : ∃ ticket, c.ticket? = some ticket ∧
      store.find ticket = .ok (some u)) (hd : services.find t.id = .ok (some d)) :
    (mfaRole rules services store selection).propose a t c =
      ofFinding selection d c (rules.evaluate u d) := by
  obtain ⟨ticket, hticket, hu⟩ := hactive
  simp only [mfaRole, hticket, hu, hd]

/-- The resolver abstains, fails since directory or store does, or goes by what the rule of the
definition grants to the user who has logged in. -/
theorem mfaRole_cases (rules : RoleRules) (services : ServiceDirectory)
    (store : AuthenticationStore) (selection : RoleSelection) (a : Option Authentication)
    (t : TargetService) (c : RequestContext) :
    let outcome := ((mfaRole rules services store selection).propose a t c).outcome
    outcome = .ok none ∨
      (∃ f, outcome = .error f ∧
        (services.find t.id = .error f ∨ ∃ ticket, store.find ticket = .error f)) ∨
      ∃ u d, (∃ ticket, c.ticket? = some ticket ∧ store.find ticket = .ok (some u)) ∧
        services.find t.id = .ok (some d) ∧
        outcome = (ofFinding selection d c (rules.evaluate u d)).outcome := by
  intro outcome
  have houtcome : outcome = ((mfaRole rules services store selection).propose a t c).outcome := rfl
  unfold mfaRole at houtcome
  dsimp only at houtcome
  split at houtcome
  · exact Or.inl houtcome
  · next ticket hticket =>
    split at houtcome
    · next f hf => exact Or.inr (Or.inl ⟨f, houtcome, Or.inr ⟨ticket, hf⟩⟩)
    · exact Or.inl houtcome
    · next u hu =>
      split at houtcome
      · next f hf => exact Or.inr (Or.inl ⟨f, houtcome, Or.inl hf⟩)
      · exact Or.inl houtcome
      · next d hd => exact Or.inr (Or.inr ⟨u, d, ⟨ticket, hticket, hu⟩, hd, houtcome⟩)

/-- What the resolver proposes is the method of the rule that the definition of the target states,
whatever the user. -/
theorem mfaRole_proposes {m : Text}
    (h : ((mfaRole rules services store selection).propose a t c).outcome = .ok (some m)) :
    ∃ d rule, services.find t.id = .ok (some d) ∧ rules.States d rule ∧ m = rule.method.name := by
  rcases mfaRole_cases rules services store selection a t c with
    hnone | ⟨f, hf, -⟩ | ⟨u, d, -, hd, hfinding⟩
  · cases hnone.symm.trans h
  · cases hf.symm.trans h
  · obtain ⟨rule, hstates, hm⟩ := ofFinding_proposes (hfinding.symm.trans h)
    exact ⟨d, rule, hd, hstates, hm⟩

theorem mfaRole_of_fits (h : rules.Applies services store t c rule u)
    (hfits : rule.Fits u.principal) :
    ((mfaRole rules services store selection).propose a t c).outcome =
      .ok (some rule.method.name) := by
  obtain ⟨d, hd, hstates⟩ := h.stated
  obtain ⟨p, role, hp, hrole⟩ := hfits
  rw [mfaRole_of_active h.active hd, ofFinding_of_role hstates hp hrole]

theorem mfaRole_of_breaks {f : HostFailure} (h : rules.Applies services store t c rule u)
    (hbreaks : rule.Breaks f) :
    ((mfaRole rules services store selection).propose a t c).outcome = .error f := by
  obtain ⟨d, hd, hstates⟩ := h.stated
  obtain ⟨r, hr, hf⟩ := hbreaks
  rw [mfaRole_of_active h.active hd]
  apply ofFinding_of_error
  rw [RoleRules.evaluate_of_refused hstates hr, hf]

/-- The resolver abstains where no rule fits or breaks, provided that directory and store
answer. -/
theorem mfaRole_of_neither (hservices : ∃ p, services.find t.id = .ok p)
    (hstore : ∀ ticket, ∃ p, store.find ticket = .ok p)
    (hfits : ∀ rule u, rules.Applies services store t c rule u → ¬ rule.Fits u.principal)
    (hbreaks : ∀ rule u f, rules.Applies services store t c rule u → ¬ rule.Breaks f) :
    ((mfaRole rules services store selection).propose a t c).outcome = .ok none := by
  rcases mfaRole_cases rules services store selection a t c with
    hnone | ⟨f, -, hf | ⟨ticket, hf⟩⟩ | ⟨u, d, hactive, hd, hfinding⟩
  · exact hnone
  · obtain ⟨p, hp⟩ := hservices
    cases hf.symm.trans hp
  · obtain ⟨p, hp⟩ := hstore ticket
    cases hf.symm.trans hp
  · rw [hfinding]
    by_cases hstated : ∃ rule, rules.States d rule
    · obtain ⟨rule, hstates⟩ := hstated
      have happlies : rules.Applies services store t c rule u :=
        ⟨⟨d, hd, hstates⟩, hactive⟩
      cases hp : Pattern.compile rule.pattern with
      | ok p =>
        refine ofFinding_of_no_role hstates hp fun role hrole => ?_
        exact hfits rule u happlies ⟨p, role, hp, hrole⟩
      | error r =>
        cases hf : RoleRules.hostFailure? rule.pattern r with
        | some f => exact absurd ⟨r, hp, hf⟩ (hbreaks rule u f happlies)
        | none =>
          have hgrants : (rules.evaluate u d).grants = .ok [] := by
            rw [RoleRules.evaluate_of_refused hstates hp, hf]
          exact ofFinding_of_ok hgrants
    · obtain ⟨x, hevaluate⟩ := RoleRules.evaluate_of_unstated (a := u) (not_exists.mp hstated)
      have hgrants : (rules.evaluate u d).grants = .ok [] := congrArg RoleFinding.grants hevaluate
      exact ofFinding_of_ok hgrants

end Resolver

end StepUp
