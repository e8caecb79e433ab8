import StepUp.Proofs.Chain.Tracing
import StepUp.Proofs.Config.Exchange
import StepUp.Proofs.Role.Refusal

/-!
# Requests to services whose pattern is refused

A rule whose pattern is malformed should not stand in the way of a request, and does not: the
request is resolved as it would be if the definition of the service stated a rule that does not fit
the user (`Config.Unmatched`). The same cannot be said of a pattern that is refused for another
reason. A request that gets as far as the rule fails with it (`refused_pattern_harmless_iff`), as
the bound of `huge_bound_fails` shows.
-/

namespace StepUp

namespace Chain

variable {a : Option Authentication} {t : TargetService} {c : RequestContext}

/-- Two resolvers come to the same, and a failure of the one is told like a failure of the other. -/
structure Alike (a : Option Authentication) (t : TargetService) (c : RequestContext)
    (q r : Resolver) : Prop where
  name : q.name = r.name
  source : q.source = r.source
  outcome : (q.propose a t c).outcome = (r.propose a t c).outcome

theorem Alike.refl (r : Resolver) : Alike a t c r r := ⟨rfl, rfl, rfl⟩

/-- What a search finds depends on what the resolvers come to only. -/
theorem find_of_alike {qs rs : List Resolver} (h : List.Forall₂ (Alike a t c) qs rs) :
    (find a t c qs).2 = (find a t c rs).2 := by
  induction h with
  | nil => rfl
  | @cons q r qs rs hr _ ih =>
    cases hout : (r.propose a t c).outcome with
    | error f =>
      rw [find_cons_of_raises (hr.outcome.trans hout), find_cons_of_raises hout, hr.name,
        hr.source]
    | ok p =>
      by_cases hpass : (p.filter fun m => !m.isBlank) = none
      · have hq : q.Passes a t c := Resolver.passes_iff.mpr ⟨p, hr.outcome.trans hout, hpass⟩
        rw [find_cons_of_passes hq,
          find_cons_of_passes (Resolver.passes_iff.mpr ⟨p, hout, hpass⟩), ih]
      · obtain ⟨m, hm⟩ := Option.ne_none_iff_exists'.mp hpass
        simp only [find, hr.outcome, hout, hm, hr.source]

end Chain

namespace Resolver

variable {a : Option Authentication} {t : TargetService} {c : RequestContext}
  {rules : RoleRules} {services services' : ServiceDirectory} {store : AuthenticationStore}
  {selection : RoleSelection} {d d' : ServiceDefinition}

/-- Two definitions that come to the same for the user behind the ticket of the flow are the same
to the role resolver. -/
theorem mfaRole_outcome_congr (hd : services.find t.id = .ok (some d))
    (hd' : services'.find t.id = .ok (some d'))
    (h : ∀ u, PutsToRule services store t c u d →
      (ofFinding selection d c (rules.evaluate u d)).outcome =
        (ofFinding selection d' c (rules.evaluate u d')).outcome) :
    ((mfaRole rules services store selection).propose a t c).outcome =
      ((mfaRole rules services' store selection).propose a t c).outcome := by
  unfold mfaRole
  dsimp only
  split
  · rfl
  · next ticket hticket =>
    split
    · rfl
    · rfl
    · next u hu =>
      rw [hd, hd']
      exact h u ⟨hd, ticket, hticket, hu⟩

theorem ofFinding_of_malformed {rule : RoleRule} {r : Pattern.Refusal} {u : Authentication}
    (h : rules.States d rule) (hp : Pattern.compile rule.pattern = .error r) (hr : r.Malformed) :
    (ofFinding selection d c (rules.evaluate u d)).outcome = .ok none := by
  have hgrants : (rules.evaluate u d).grants = .ok [] := by
    rw [RoleRules.evaluate_of_malformed h hp hr]
  exact ofFinding_of_ok hgrants

/-- To a definition with a rule the resolver for registered services has nothing to say. -/
theorem registeredService_of_stated {rule : RoleRule} (hd : services.find t.id = .ok (some d))
    (h : rules.States d rule) (property : Text) (default : Option Text) :
    ((registeredService services property default).propose a t c).outcome = .ok none := by
  rw [registeredService_of_governed hd]
  apply ofDefinition_of_not_plain
  rw [← ServiceDefinition.defersToRoles_eq_false_iff, defersToRoles_of_states h]
  nofun

end Resolver

namespace Config

variable {c : Config} {rules : RoleRules} {services services' : ServiceDirectory}
  {store : Option AuthenticationStore} {chain chain' : Chain} {a : Option Authentication}
  {t : TargetService} {ctx : RequestContext} {d d' : ServiceDefinition} {rule rule' : RoleRule}
  {r : Pattern.Refusal} {f : HostFailure}

/-- The chain is the one that the configuration describes, and evaluates rules like this. -/
structure Describes (c : Config) (services : ServiceDirectory)
    (store : Option AuthenticationStore) (rules : RoleRules) (chain : Chain) : Prop where
  built : Chain.ofConfig? c services store = .ok chain
  rules : rules = ⟨chain.verifier.registry, c.serviceMethodProperty⟩

theorem Describes.eq (h : c.Describes services store rules chain) :
    chain = ⟨c.resolvers rules.registry services store, { registry := rules.registry }⟩ ∧
      rules.methodProperty = c.serviceMethodProperty := by
  obtain ⟨hbuilt, rfl⟩ := h
  obtain ⟨registry, rfl⟩ := Chain.ofConfig?_eq_ok hbuilt
  exact ⟨rfl, rfl⟩

/-- The definition of the target states a rule with a pattern that can be read, and the rule does
not fit the user behind the ticket of the flow. -/
structure Unmatched (services : ServiceDirectory) (store : Option AuthenticationStore)
    (rules : RoleRules) (t : TargetService) (ctx : RequestContext) (d : ServiceDefinition)
    (rule : RoleRule) : Prop where
  governing : services.find t.id = .ok (some d)
  stated : rules.States d rule
  read : ∃ p, Pattern.compile rule.pattern = .ok p
  unfit : ∀ s u, store = some s → Resolver.PutsToRule services s t ctx u d →
    ¬ rule.Fits u.principal

theorem Unmatched.abstains (h : Unmatched services store rules t ctx d rule)
    {s : AuthenticationStore} {u : Authentication} (hs : store = some s)
    (hu : Resolver.PutsToRule services s t ctx u d) (selection : RoleSelection) :
    (Resolver.ofFinding selection d ctx (rules.evaluate u d)).outcome = .ok none := by
  obtain ⟨p, hp⟩ := h.read
  refine Resolver.ofFinding_of_no_role h.stated hp fun role hrole => ?_
  exact h.unfit s u hs hu ⟨p, role, hp, hrole⟩

/-- A request to a service whose pattern is malformed ends like one to a service whose rule does
not fit. -/
theorem ending_of_malformed (hchain : c.Describes services store rules chain)
    (hchain' : c.Describes services' store rules chain')
    (hd : services.find t.id = .ok (some d)) (stated : rules.States d rule)
    (refused : Pattern.compile rule.pattern = .error r) (hr : r.Malformed)
    (hunmatched : Unmatched services' store rules t ctx d' rule') :
    (chain.resolve a (some t) ctx).ending = (chain'.resolve a (some t) ctx).ending := by
  obtain ⟨rfl, hproperty⟩ := hchain.eq
  obtain ⟨rfl, -⟩ := hchain'.eq
  refine Chain.ending_of_find_eq rfl (Chain.find_of_alike ?_)
  have hservice : Chain.Alike a t ctx
      (.registeredService services c.serviceMethodProperty c.defaultMethod)
      (.registeredService services' c.serviceMethodProperty c.defaultMethod) := by
    refine ⟨rfl, rfl, ?_⟩
    rw [Resolver.registeredService_of_stated hd stated,
      Resolver.registeredService_of_stated hunmatched.governing hunmatched.stated]
  have hattribute : List.Forall₂ (Chain.Alike a t ctx) (c.attributeStep rules.registry)
      (c.attributeStep rules.registry) := List.forall₂_same.mpr fun q _ => .refl q
  rw [resolvers_eq, resolvers_eq]
  refine .cons (.refl _) (.cons hservice ?_)
  cases store with
  | none => exact hattribute
  | some s =>
    refine .cons ⟨rfl, rfl, ?_⟩ hattribute
    rw [← hproperty]
    refine Resolver.mfaRole_outcome_congr hd hunmatched.governing fun u hu => ?_
    rw [hunmatched.abstains rfl ⟨hunmatched.governing, hu.active⟩ c.roleSelection]
    exact Resolver.ofFinding_of_malformed stated refused hr

/-- A request that gets as far as the rule fails with it. -/
theorem ending_of_failing (hchain : c.Describes services store rules chain)
    (stated : rules.States d rule) (refused : Pattern.compile rule.pattern = .error r)
    (hf : RoleRules.hostFailure? rule.pattern r = some f) {u : Authentication}
    (h : c.ConsultsRule services store t ctx u d) :
    (chain.resolve a (some t) ctx).ending =
      ⟨.error (.failed (Chain.failureReason "MfaRoleResolver" f)), ctx, some t,
        some { Chain.eventFor a (some t) ctx .failed with
          source := some Source.mfaRole.text, error := some f.describe }⟩ := by
  obtain ⟨rfl, hproperty⟩ := hchain.eq
  obtain ⟨s, rfl, hput⟩ := h.put
  have hout : ((Resolver.mfaRole ⟨rules.registry, c.serviceMethodProperty⟩ services s
      c.roleSelection).propose a t ctx).outcome = .error f := by
    rw [Resolver.mfaRole_of_active hput.active hput.governing, ← hproperty]
    apply Resolver.ofFinding_of_error
    rw [RoleRules.evaluate_of_failing stated refused hf]
  refine Chain.resolve_of_raises ⟨⟨[_, _], c.attributeStep rules.registry, rfl, ?_, ?_⟩, hout⟩
  · intro q hq
    rcases List.mem_cons.mp hq with rfl | hq
    · exact requestParameter_passes h.unasked
    · cases List.mem_singleton.mp hq
      exact (registeredService_passes_iff hput.governing).mpr h.undemanded
  · rw [Resolver.passes_iff, hout]
    rintro ⟨p, hp, -⟩
    cases hp

end Config

/-- **A pattern that is refused.** Take a definition with a complete role rule for a registered
method, and a pattern that is refused for whatever reason. Every user is granted nothing, and one
warning says why, just if the pattern is malformed. Then, over the chain of any configuration with
any directory and any store, each request to the service ends as it would if the rule could be read
and did not fit: with the same answer, context, target and audit event. Otherwise, with nothing
recorded about the rule, its evaluation fails with the reason for the refusal, and so does each
request that gets as far as the rule. -/
theorem refused_pattern_harmless_iff {rules : RoleRules} {d : ServiceDefinition} {rule : RoleRule}
    (stated : rules.States d rule) {r : Pattern.Refusal}
    (refused : Pattern.compile rule.pattern = .error r) :
    (∀ u, rules.evaluate u d = ⟨[RoleRules.warning d rule r], .ok []⟩ ↔ r.Malformed) ∧
      (r.Malformed → ∀ c services store chain t, Config.Describes c services store rules chain →
        services.find t.id = .ok (some d) → ∀ services' chain' ctx d' rule',
          Config.Describes c services' store rules chain' →
          Config.Unmatched services' store rules t ctx d' rule' →
          ∀ a, (chain.resolve a (some t) ctx).ending = (chain'.resolve a (some t) ctx).ending) ∧
      (¬ r.Malformed → ∃ kind ∈ (["OverflowError", "ValueError"] : List Text),
        let f : HostFailure := ⟨kind, r.message rule.pattern⟩
        (∀ u, rules.evaluate u d = ⟨[], .error f⟩) ∧
          ∀ c services store chain t ctx u, Config.Describes c services store rules chain →
            c.ConsultsRule services store t ctx u d →
            ∀ a, (chain.resolve a (some t) ctx).ending.answer =
              .error (.failed (Chain.failureReason "MfaRoleResolver" f))) := by
  refine ⟨fun u => RoleRules.evaluate_eq_warning_iff stated refused, ?_, ?_⟩
  · intro hr c services store chain t hchain hd services' chain' ctx d' rule' hchain' hunmatched a
    exact Config.ending_of_malformed hchain hchain' hd stated refused hr hunmatched
  · intro hr
    obtain ⟨kind, hkind, hf⟩ := RoleRules.hostFailure?_of_not_malformed hr rule.pattern
    refine ⟨kind, hkind, fun u => RoleRules.evaluate_of_failing stated refused hf, ?_⟩
    intro c services store chain t ctx u hchain hconsults a
    rw [Config.ending_of_failing hchain stated refused hf hconsults]

/-- A parenthesis is left open. The user is granted nothing, and requests end as if the pattern of
the service described another role. -/
theorem refused_pattern_harmless_iff_parenthesis :
    let sms : Method := ⟨"sms", 1⟩
    let d (pattern : Text) : ServiceDefinition := ⟨"app", "app", none,
      [("mfa_attribute_name", "roles"), ("mfa_attribute_pattern", pattern),
        ("authn_method", "sms")]⟩
    let rule (pattern : Text) : RoleRule := ⟨"roles", pattern, sms⟩
    let rules : RoleRules := ⟨⟨[sms], by decide⟩, "authn_method"⟩
    let c : Config := { methods := [sms] }
    let ann : Authentication := ⟨⟨"ann", [("roles", .str "admin")]⟩⟩
    let store : AuthenticationStore := .ofList [("TGT-1", ann)]
    let chain (pattern : Text) : Chain :=
      ⟨c.resolvers rules.registry (.ofList [d pattern]) (some store),
        { registry := rules.registry }⟩
    rules.States (d "(") (rule "(") ∧ (∃ r, Pattern.compile "(" = .error r ∧
      rules.evaluate ann (d "(") = ⟨[RoleRules.warning (d "(") (rule "(") r], .ok []⟩) ∧
      ∀ a ctx, ((chain "(").resolve a (some { id := "app" }) ctx).ending =
        ((chain "ops").resolve a (some { id := "app" }) ctx).ending := by
  intro sms d rule rules c ann store chain
  have hstates (pattern : Text) (h : pattern ≠ []) : rules.States (d pattern) (rule pattern) :=
    ⟨rfl, List.cons_ne_nil _ _, rfl, h, rfl, List.cons_ne_nil _ _, List.mem_singleton_self _⟩
  have hrefused : Pattern.compile "(" =
      .error (.malformed (.missing "), unterminated subpattern") (some 0)) := by cbv
  have hread : (Pattern.compile "ops").toOption.any (fun p => !p.describes "admin") = true := by
    decide +kernel
  have hdescribes (pattern : Text) : c.Describes (.ofList [d pattern]) (some store) rules
      (chain pattern) := ⟨rfl, rfl⟩
  have hgoverning (pattern : Text) :
      (ServiceDirectory.ofList [d pattern]).find "app" = .ok (some (d pattern)) := by cbv
  obtain ⟨hiff, hsame, -⟩ := refused_pattern_harmless_iff (hstates "(" (by decide)) hrefused
  refine ⟨hstates "(" (by decide), ⟨_, hrefused, (hiff ann).mpr ⟨_, _, rfl⟩⟩, ?_⟩
  intro a ctx
  cases hp : Pattern.compile "ops" with
  | error r =>
    rw [hp] at hread
    cases hread
  | ok p =>
    have hmissed : p.describes "admin" = false := by
      rw [hp] at hread
      simpa [Except.toOption] using hread
    have hunmatched : Config.Unmatched (.ofList [d "ops"]) (some store) rules { id := "app" } ctx
        (d "ops") (rule "ops") := by
      refine ⟨hgoverning "ops", hstates "ops" (by decide), ⟨p, hp⟩, ?_⟩
      rintro s u hs hput ⟨p', role, hp', ⟨hentry, -⟩, hdescribed⟩
      cases hs
      cases hp.symm.trans hp'
      obtain ⟨ticket, -, hticket⟩ := hput.active
      have hlookup : [(("TGT-1" : Text), ann)].lookup ticket = some u := Except.ok.inj hticket
      have hu : u = ann := by
        rw [List.lookup_cons] at hlookup
        split at hlookup
        · exact (Option.some_inj.mp hlookup).symm
        · cases hlookup
      subst hu
      cases List.mem_singleton.mp hentry
      rw [hmissed] at hdescribed
      cases hdescribed
    exact hsame ⟨_, _, rfl⟩ c _ _ _ _ (hdescribes "(") (hgoverning "(") _ _ ctx _ _
      (hdescribes "ops") hunmatched a

/-- The bound of the repetition is the largest that the host knows, which is one too large. There is
no warning about the pattern: it fails. -/
theorem huge_bound_fails :
    let sms : Method := ⟨"sms", 1⟩
    let d : ServiceDefinition := ⟨"app", "app", none, [("mfa_attribute_name", "roles"),
      ("mfa_attribute_pattern", "a\x7b4294967295\x7d"), ("authn_method", "sms")]⟩
    let rules : RoleRules := ⟨⟨[sms], by decide⟩, "authn_method"⟩
    let ann : Authentication := ⟨⟨"ann", [("roles", .str "admin")]⟩⟩
    rules.States d ⟨"roles", "a\x7b4294967295\x7d", sms⟩ ∧ rules.evaluate ann d =
      ⟨[], .error ⟨"OverflowError", "the repetition number is too large"⟩⟩ := by
  intro sms d rules ann
  refine ⟨⟨rfl, by decide, rfl, by decide, rfl, by decide, List.mem_singleton_self _⟩, ?_⟩
  cbv

end StepUp
