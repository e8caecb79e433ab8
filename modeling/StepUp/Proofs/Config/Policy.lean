import Mathlib
import StepUp.Proofs.Chain.Ending
import StepUp.Proofs.Config.Valid
import StepUp.Proofs.Role.Resolver

/-!
# The policy of a configuration

`Config.Decides` is the policy that a configuration stands for, with services and authentications
held in lists: what a request asks for comes first, then what the definition of the target
demands, by its own method or the default or by a role rule, and what an attribute of the user
says comes last. It speaks of the contents of configuration, definitions, store, user and request
and of nothing that a chain does.

The chain that a valid configuration describes finds what the policy decides
(`Config.Valid.find_of_decides`), and the policy decides every request
(`Config.exists_decides`); `standard_chain_decides` puts the two together.
-/

namespace StepUp

/-- The definition governs the id, and none before it does. -/
def ServiceDirectory.Governing (definitions : List ServiceDefinition) (id : Text)
    (d : ServiceDefinition) : Prop :=
  ∃ before after, definitions = before ++ d :: after ∧ d.governs id = true ∧
    ∀ b ∈ before, b.governs id = false

theorem ServiceDirectory.find_ofList_iff {definitions : List ServiceDefinition} {id : Text}
    {d : ServiceDefinition} :
    (ofList definitions).find id = .ok (some d) ↔ Governing definitions id d := by
  simp only [ofList, firstGoverning, Except.ok.injEq, List.find?_eq_some_iff_append, Governing,
    Bool.not_eq_true']
  constructor
  · rintro ⟨hgoverns, before, after, rfl, hbefore⟩
    exact ⟨before, after, rfl, hgoverns, hbefore⟩
  · rintro ⟨before, after, rfl, hgoverns, hbefore⟩
    exact ⟨hgoverns, before, after, rfl, hbefore⟩

namespace Config

/-! ## The policy -/

section Policy

variable (c : Config) (definitions : List ServiceDefinition)

/-- The definition of the target has no role properties and demands the method. -/
def ServiceDemands (t : TargetService) (m : Text) : Prop :=
  ∃ d, ServiceDirectory.Governing definitions t.id d ∧
    d.Demands c.serviceMethodProperty c.defaultMethod m

/-- The definition of the target states the rule, for a configured method, and the ticket of the
flow is that of the user. -/
structure RuleApplies (entries : List (Text × Authentication)) (t : TargetService)
    (ctx : RequestContext) (rule : RoleRule) (u : Authentication) : Prop where
  stated : ∃ d, ServiceDirectory.Governing definitions t.id d ∧
    d.property? ServiceDefinition.roleAttributeProperty = some rule.attributeName ∧
    rule.attributeName ≠ [] ∧
    d.property? ServiceDefinition.rolePatternProperty = some rule.pattern ∧ rule.pattern ≠ [] ∧
    d.property? c.serviceMethodProperty = some rule.method.name
  configured : rule.method ∈ c.methods
  known : ∃ ticket, ctx.flowScope.lookup RequestContext.ticketKey = some (.str ticket) ∧
    ticket.isBlank = false ∧ entries.lookup ticket = some u

/-- No role rule has anything to say: each that applies can be evaluated and does not fit. -/
def Roleless (store : Option (List (Text × Authentication))) (t : TargetService)
    (ctx : RequestContext) : Prop :=
  ∀ entries rule u, store = some entries → c.RuleApplies definitions entries t ctx rule u →
    ¬ rule.Fits u.principal ∧ ∀ f, ¬ rule.Breaks f

/-- The user carries a configured method in the attribute that is looked at, if one is. -/
def CarriedBy (a : Option Authentication) (m : Text) : Prop :=
  ∃ name u, c.principalMethodAttribute = some name ∧ name ≠ [] ∧ a = some u ∧
    (u.principal.attributeValues name).head? = some m ∧ m ∈ c.methodNames

/-- What the policy comes to for a user, a target and a request. -/
inductive Decides (store : Option (List (Text × Authentication))) (a : Option Authentication)
    (t : TargetService) (ctx : RequestContext) : Finding → Prop where
  /-- The request asks for a method. -/
  | parameter {m : Text} (asked : ctx.Asks c.methodParameter m) :
      Decides store a t ctx (.candidate m .requestParameter)
  /-- The definition of the target demands one. -/
  | service {m : Text} (unasked : ∀ m, ¬ ctx.Asks c.methodParameter m)
      (demanded : c.ServiceDemands definitions t m) :
      Decides store a t ctx (.candidate m .registeredService)
  /-- It leaves the decision to its rule, which fits the user who has logged in. -/
  | role {entries : List (Text × Authentication)} {rule : RoleRule} {u : Authentication}
      (unasked : ∀ m, ¬ ctx.Asks c.methodParameter m) (given : store = some entries)
      (applies : c.RuleApplies definitions entries t ctx rule u) (fits : rule.Fits u.principal) :
      Decides store a t ctx (.candidate rule.method.name .mfaRole)
  /-- The rule applies, and its pattern breaks the evaluation. -/
  | broken {entries : List (Text × Authentication)} {rule : RoleRule} {u : Authentication}
      {f : HostFailure} (unasked : ∀ m, ¬ ctx.Asks c.methodParameter m)
      (given : store = some entries) (applies : c.RuleApplies definitions entries t ctx rule u)
      (breaks : rule.Breaks f) :
      Decides store a t ctx (.failure "MfaRoleResolver" .mfaRole f)
  /-- An attribute of the user names one, and nothing before has anything to say. -/
  | user {m : Text} (unasked : ∀ m, ¬ ctx.Asks c.methodParameter m)
      (undemanded : ∀ m, ¬ c.ServiceDemands definitions t m)
      (roleless : c.Roleless definitions store t ctx) (carried : c.CarriedBy a m) :
      Decides store a t ctx (.candidate m .principalAttribute)
  /-- Nothing has anything to say. -/
  | nothing (unasked : ∀ m, ¬ ctx.Asks c.methodParameter m)
      (undemanded : ∀ m, ¬ c.ServiceDemands definitions t m)
      (roleless : c.Roleless definitions store t ctx) (uncarried : ∀ m, ¬ c.CarriedBy a m) :
      Decides store a t ctx .nothing

end Policy

variable {c : Config} {definitions : List ServiceDefinition}
  {store : Option (List (Text × Authentication))} {a : Option Authentication}
  {t : TargetService} {ctx : RequestContext} {m : Text}

theorem ServiceDemands.nonblank (h : c.ServiceDemands definitions t m) : m.isBlank = false := by
  obtain ⟨d, -, hd⟩ := h
  exact hd.nonblank

/-- A definition with a role rule does not demand a method itself. -/
theorem RuleApplies.undemanded {entries : List (Text × Authentication)} {rule : RoleRule}
    {u : Authentication} (h : c.RuleApplies definitions entries t ctx rule u) :
    ¬ c.ServiceDemands definitions t m := by
  obtain ⟨d, hd, hattribute, -⟩ := h.stated
  rintro ⟨d', hd', hdemands⟩
  rw [← ServiceDirectory.find_ofList_iff] at hd hd'
  cases hd.symm.trans hd'
  rw [hdemands.plain.1] at hattribute
  cases hattribute

/-- The policy decides every request. -/
theorem exists_decides (c : Config) (definitions : List ServiceDefinition)
    (store : Option (List (Text × Authentication))) (a : Option Authentication)
    (t : TargetService) (ctx : RequestContext) : ∃ finding, c.Decides definitions store a t ctx
      finding := by
  by_cases asked : ∃ m, ctx.Asks c.methodParameter m
  · obtain ⟨m, asked⟩ := asked
    exact ⟨_, .parameter asked⟩
  have unasked := not_exists.mp asked
  by_cases demanded : ∃ m, c.ServiceDemands definitions t m
  · obtain ⟨m, demanded⟩ := demanded
    exact ⟨_, .service unasked demanded⟩
  have undemanded := not_exists.mp demanded
  by_cases roleless : c.Roleless definitions store t ctx
  · by_cases carried : ∃ m, c.CarriedBy a m
    · obtain ⟨m, carried⟩ := carried
      exact ⟨_, .user unasked undemanded roleless carried⟩
    · exact ⟨_, .nothing unasked undemanded roleless (not_exists.mp carried)⟩
  · simp only [Roleless, not_forall] at roleless
    obtain ⟨entries, rule, u, given, applies, hrule⟩ := roleless
    by_cases fits : rule.Fits u.principal
    · exact ⟨_, .role unasked given applies fits⟩
    · obtain ⟨f, breaks⟩ : ∃ f, rule.Breaks f := by
        simpa [fits] using hrule
      exact ⟨_, .broken unasked given applies breaks⟩

/-! ## The standard chain -/

/-- The role resolver, where there is a store. -/
def roleStep (c : Config) (registry : Registry) (services : ServiceDirectory)
    (store : Option AuthenticationStore) : List Resolver :=
  match store with
  | some store => [.mfaRole ⟨registry, c.serviceMethodProperty⟩ services store c.roleSelection]
  | none => []

/-- The resolver for an attribute of the user, where one is looked at. -/
def attributeStep (c : Config) (registry : Registry) : List Resolver :=
  match c.principalMethodAttribute.filter fun name => !name.isEmpty with
  | some name => [.principalAttribute registry name]
  | none => []

theorem resolvers_eq (c : Config) (registry : Registry) (services : ServiceDirectory)
    (store : Option AuthenticationStore) :
    c.resolvers registry services store =
      .requestParameter c.methodParameter
        :: .registeredService services c.serviceMethodProperty c.defaultMethod
        :: (c.roleStep registry services store ++ c.attributeStep registry) := rfl

theorem requestParameter_passes (h : ∀ m, ¬ ctx.Asks c.methodParameter m) :
    (Resolver.requestParameter c.methodParameter).Passes a t ctx := by
  apply Resolver.passes_of_abstains
  rw [Resolver.requestParameter_outcome, RequestContext.parameter?_eq_none_iff.mpr h]

theorem registeredService_outcome_iff :
    ((Resolver.registeredService (.ofList definitions) c.serviceMethodProperty
        c.defaultMethod).propose a t ctx).outcome = .ok (some m) ↔
      c.ServiceDemands definitions t m := by
  unfold ServiceDemands
  simp only [← ServiceDirectory.find_ofList_iff]
  exact Resolver.registeredService_outcome_iff

theorem registeredService_passes (h : ∀ m, ¬ c.ServiceDemands definitions t m) :
    (Resolver.registeredService (.ofList definitions) c.serviceMethodProperty
      c.defaultMethod).Passes a t ctx := by
  apply Resolver.passes_of_abstains
  have hok : ∃ p, ((Resolver.registeredService (.ofList definitions) c.serviceMethodProperty
      c.defaultMethod).propose a t ctx).outcome = .ok p := by
    cases hd : ServiceDirectory.firstGoverning definitions t.id with
    | none => exact ⟨_, Resolver.registeredService_of_ungoverned (congrArg _ hd)⟩
    | some d =>
      rw [Resolver.registeredService_of_governed (congrArg _ hd)]
      exact Resolver.ofDefinition_outcome_ok _ _ _ _
  obtain ⟨p, hp⟩ := hok
  cases p with
  | none => exact hp
  | some m => exact absurd (registeredService_outcome_iff.mp hp) (h m)

namespace Valid

variable (h : c.Valid)

include h

theorem applies_iff {entries : List (Text × Authentication)} {rule : RoleRule}
    {u : Authentication} :
    RoleRules.Applies ⟨h.registry, c.serviceMethodProperty⟩ (.ofList definitions)
      (.ofList entries) t ctx rule u ↔ c.RuleApplies definitions entries t ctx rule u := by
  constructor
  · rintro ⟨⟨d, hd, hstates⟩, ⟨ticket, hticket, hu⟩⟩
    obtain ⟨hlookup, hblank⟩ := RequestContext.ticket?_eq_some_iff.mp hticket
    refine ⟨⟨d, ServiceDirectory.find_ofList_iff.mp hd, hstates.attributeName,
      hstates.attributeName_ne, hstates.pattern, hstates.pattern_ne, hstates.method⟩,
      hstates.member, ⟨ticket, hlookup, hblank, ?_⟩⟩
    simpa [AuthenticationStore.ofList] using hu
  · rintro ⟨⟨d, hd, h₁, h₂, h₃, h₄, h₅⟩, hmem, ⟨ticket, hlookup, hblank, hu⟩⟩
    have hname : rule.method.name ≠ [] := by
      intro hnil
      have hnamed := h.named rule.method hmem
      rw [hnil] at hnamed
      cases hnamed
    refine ⟨⟨d, ServiceDirectory.find_ofList_iff.mpr hd, ⟨h₁, h₂, h₃, h₄, h₅, hname, hmem⟩⟩,
      ⟨ticket, RequestContext.ticket?_eq_some_iff.mpr ⟨hlookup, hblank⟩, ?_⟩⟩
    simpa [AuthenticationStore.ofList] using hu

theorem roleStep_passes (hroleless : c.Roleless definitions store t ctx) :
    ∀ r ∈ c.roleStep h.registry (.ofList definitions) (store.map .ofList),
      r.Passes a t ctx := by
  cases store with
  | none => exact fun r hr => nomatch hr
  | some entries =>
    intro r hr
    cases List.mem_singleton.mp hr
    apply Resolver.passes_of_abstains
    apply Resolver.mfaRole_of_neither ⟨_, rfl⟩ (fun _ => ⟨_, rfl⟩)
    · intro rule u happlies
      exact (hroleless entries rule u rfl (h.applies_iff.mp happlies)).1
    · intro rule u f happlies
      exact (hroleless entries rule u rfl (h.applies_iff.mp happlies)).2 f

theorem attributeStep_passes (huncarried : ∀ m, ¬ c.CarriedBy a m) :
    ∀ r ∈ c.attributeStep h.registry, r.Passes a t ctx := by
  intro r hr
  unfold attributeStep at hr
  split at hr
  · next name hname =>
    obtain ⟨hname, hne⟩ := Option.filter_eq_some_iff.mp hname
    cases List.mem_singleton.mp hr
    apply Resolver.passes_of_abstains
    obtain ⟨p, hp⟩ := Resolver.principalAttribute_outcome_ok h.registry name a t ctx
    cases p with
    | none => exact hp
    | some m =>
      obtain ⟨u, ha, hcarries⟩ := Resolver.principalAttribute_outcome_iff.mp hp
      refine absurd ⟨name, u, hname, ?_, ha, hcarries⟩ (huncarried m)
      simpa using hne
  · cases hr

/-- Where request and definition are silent, it is up to the resolvers behind. -/
theorem find_of_undemanded (unasked : ∀ m, ¬ ctx.Asks c.methodParameter m)
    (undemanded : ∀ m, ¬ c.ServiceDemands definitions t m)
    (store : Option AuthenticationStore) :
    (Chain.find a t ctx (c.resolvers h.registry (.ofList definitions) store)).2 =
      (Chain.find a t ctx
        (c.roleStep h.registry (.ofList definitions) store ++ c.attributeStep h.registry)).2 := by
  have hpass : ∀ r ∈ [Resolver.requestParameter c.methodParameter, .registeredService
      (.ofList definitions) c.serviceMethodProperty c.defaultMethod], r.Passes a t ctx := by
    intro r hr
    rcases List.mem_cons.mp hr with rfl | hr
    · exact requestParameter_passes unasked
    · cases List.mem_singleton.mp hr
      exact registeredService_passes undemanded
  exact Chain.find_append_of_pass hpass _

/-- The standard chain finds what the policy decides. -/
theorem find_of_decides {finding : Finding} (hd : c.Decides definitions store a t ctx finding) :
    (Chain.find a t ctx
      (h.chain (.ofList definitions) (store.map .ofList)).resolvers).2 = finding := by
  rw [chain]
  dsimp only
  cases hd with
  | @parameter m asked =>
    have hout := Resolver.requestParameter_of_asked (a := a) (t := t) asked
    rw [resolvers_eq,
      Chain.find_cons_of_proposes hout (Resolver.not_passes_of_proposes hout asked.nonblank)]
    rfl
  | @service m unasked demanded =>
    have hout : ((Resolver.registeredService (.ofList definitions) c.serviceMethodProperty
        c.defaultMethod).propose a t ctx).outcome = .ok (some m) :=
      registeredService_outcome_iff.mpr demanded
    have hne := Resolver.not_passes_of_proposes hout demanded.nonblank
    rw [resolvers_eq, Chain.find_cons_of_passes (requestParameter_passes unasked),
      Chain.find_cons_of_proposes hout hne]
    rfl
  | @role entries rule u unasked given applies fits =>
    subst given
    have hout : ((Resolver.mfaRole ⟨h.registry, c.serviceMethodProperty⟩ (.ofList definitions)
        (.ofList entries) c.roleSelection).propose a t ctx).outcome = .ok (some rule.method.name) :=
      Resolver.mfaRole_of_fits (h.applies_iff.mpr applies) fits
    have hne := Resolver.not_passes_of_proposes hout (h.named rule.method applies.configured)
    rw [h.find_of_undemanded unasked fun _ => applies.undemanded]
    exact congrArg Prod.snd (Chain.find_cons_of_proposes hout hne _)
  | @broken entries rule u f unasked given applies breaks =>
    subst given
    have hout : ((Resolver.mfaRole ⟨h.registry, c.serviceMethodProperty⟩ (.ofList definitions)
        (.ofList entries) c.roleSelection).propose a t ctx).outcome = .error f :=
      Resolver.mfaRole_of_breaks (h.applies_iff.mpr applies) breaks
    rw [h.find_of_undemanded unasked fun _ => applies.undemanded]
    exact congrArg Prod.snd (Chain.find_cons_of_raises hout _)
  | @user m unasked undemanded roleless carried =>
    obtain ⟨name, u, hname, hne, ha, hcarries⟩ := carried
    have hcarries : u.Carries h.registry name m := hcarries
    have hstep : c.attributeStep h.registry = [.principalAttribute h.registry name] := by
      simp [attributeStep, hname, Option.filter, hne]
    have hout : ((Resolver.principalAttribute h.registry name).propose a t ctx).outcome =
        .ok (some m) := Resolver.principalAttribute_outcome_iff.mpr ⟨u, ha, hcarries⟩
    rw [h.find_of_undemanded unasked undemanded,
      Chain.find_append_of_pass (h.roleStep_passes roleless), hstep,
      Chain.find_cons_of_proposes hout
        (Resolver.not_passes_of_proposes hout hcarries.nonblank)]
    rfl
  | nothing unasked undemanded roleless uncarried =>
    rw [h.find_of_undemanded unasked undemanded,
      Chain.find_append_of_pass (h.roleStep_passes roleless),
      ← List.append_nil (c.attributeStep h.registry)]
    exact Chain.find_append_of_pass (h.attributeStep_passes uncarried) []

end Valid

end Config

/-! ## The policy and the chain -/

/-- **The standard chain implements the policy.** A valid configuration, with services and
authentications held in lists, describes a chain over its methods and a verifier that goes by
them. Whatever user, target and request: what the chain finds is what the policy decides, and a
candidate goes before the verifier with the source that the policy gives it. -/
theorem standard_chain_decides {v : Json} {c : Config} (valid : Config.check v = .ok c)
    (definitions : List ServiceDefinition) (store : Option (List (Text × Authentication))) :
    ∃ chain, Chain.ofConfig? c (.ofList definitions) (store.map .ofList) = .ok chain ∧
      chain.verifier.registry.methods = c.methods ∧ chain.verifier.acceptance = .registered ∧
      ∀ a t ctx,
        (∀ finding, (Chain.find a t ctx chain.resolvers).2 = finding ↔
          c.Decides definitions store a t ctx finding) ∧
        ∀ m s, c.Decides definitions store a t ctx (.candidate m s) →
          ∃ records, chain.resolve a (some t) ctx =
            chain.judge (Chain.eventFor a (some t) ctx) m s ctx t records := by
  have h := Config.valid_of_check valid
  refine ⟨_, h.ofConfig?_eq _ _, rfl, rfl, fun a t ctx => ⟨fun finding => ⟨?_, ?_⟩, ?_⟩⟩
  · rintro rfl
    obtain ⟨finding, hd⟩ := c.exists_decides definitions store a t ctx
    rw [h.find_of_decides hd]
    exact hd
  · exact h.find_of_decides
  · intro m s hd
    exact Chain.resolve_of_found (h.find_of_decides hd)

/-- The parameter is blank and the definition leaves the decision to its rule: the method is
that of the rule, due to the groups of the user behind the ticket. The attribute of the user who
is passed, which names another method, is not looked at. -/
theorem standard_chain_decides_retina :
    let v : Json := .obj [
      ("authentication_methods", .arr [.obj [("name", .str "sms"), ("rank", .int 1)],
        .obj [("name", .str "retina"), ("rank", .int 4)]]),
      ("default_authentication_method", .str "sms"),
      ("services", .arr [.obj [("id", .str "hr"), ("service_id", .str "https://hr/*"),
        ("properties", .obj [("mfa_attribute_name", .str "groups"),
          ("mfa_attribute_pattern", .str "a.*"), ("authn_method", .str "retina")])]])]
    let hr : ServiceDefinition := ⟨"hr", "https://hr/*", none,
      [("mfa_attribute_name", "groups"), ("mfa_attribute_pattern", "a.*"),
        ("authn_method", "retina")]⟩
    let c : Config :=
      { methods := [⟨"sms", 1⟩, ⟨"retina", 4⟩], defaultMethod := some "sms", services := [hr] }
    let active : Authentication := ⟨⟨"ann", [("groups", .arr [.int 7, .str "admins"])]⟩⟩
    let passed : Authentication := ⟨⟨"bob", [("authn_method", .str "sms")]⟩⟩
    let t : TargetService := { id := "https://hr/pay" }
    let ctx : RequestContext :=
      ⟨[("authn_method", .str " ")], [("ticketGrantingTicketId", .str "TGT-1")], "r1", false⟩
    Config.check v = .ok c ∧
      ∃ chain, Chain.ofConfig? c (.ofList [hr]) (some (.ofList [("TGT-1", active)])) = .ok chain ∧
        (Chain.find (some passed) t ctx chain.resolvers).2 = .candidate "retina" .mfaRole := by
  intro v hr c active passed t ctx
  have valid : Config.check v = .ok c := by cbv
  refine ⟨valid, ?_⟩
  obtain ⟨chain, hchain, -, -, hdecides⟩ :=
    standard_chain_decides valid [hr] (some [("TGT-1", active)])
  refine ⟨chain, hchain, ((hdecides (some passed) t ctx).1 _).mpr ?_⟩
  let rule : RoleRule := ⟨"groups", "a.*", ⟨"retina", 4⟩⟩
  have unasked : ∀ m, ¬ ctx.Asks c.methodParameter m :=
    RequestContext.parameter?_eq_none_iff.mp (by cbv)
  have governing : ServiceDirectory.Governing [hr] t.id hr :=
    ⟨[], [], rfl, by cbv, List.forall_mem_nil _⟩
  have applies : c.RuleApplies [hr] [("TGT-1", active)] t ctx rule active :=
    ⟨⟨hr, governing, by cbv, by decide, by cbv, by decide, by cbv⟩, by simp [c, rule],
      ⟨"TGT-1", by cbv, by decide, by cbv⟩⟩
  have fits : rule.Fits active.principal := by
    refine ⟨.seq (.one (.literal .none false [97])) (.times .greedy 0 none (.one .notNewline)),
      "admins", by cbv, ⟨by simp [active, rule, Principal.attributeEntries], by decide⟩, by cbv⟩
  exact .role unasked rfl applies fits

end StepUp
