import StepUp.Proofs.Config.Policy

/-!
# Service step and role step do not compete

A definition either demands a method itself or leaves the decision to its role rule, never both.
With services and authentications held in lists the role resolver therefore has something to say
only about targets whose definition defers (`Resolver.mfaRole_of_undeferred`), and about those the
resolver for registered services abstains (`Resolver.registeredService_of_deferring`).

Of two neighbours in a chain that never both have something to say it does not matter which one is
asked first (`Chain.ending_exchange`), not even when one of them fails. So the order of the two
steps is free (`service_and_role_exchange`): only the records of the system log tell it.
-/

namespace StepUp

/-! ## Neighbours in a chain -/

namespace Chain

variable {a : Option Authentication} {t : TargetService} {c : RequestContext} {q r : Resolver}
  {rest rest' : List Resolver}

theorem find_append_congr (h : (find a t c rest).2 = (find a t c rest').2)
    (before : List Resolver) :
    (find a t c (before ++ rest)).2 = (find a t c (before ++ rest')).2 := by
  induction before with
  | nil => exact h
  | cons p before ih =>
    by_cases hp : p.Passes a t c
    · simp only [List.cons_append, find_cons_of_passes hp]
      exact ih
    · have hleft := find_append_cons hp [] (before ++ rest)
      have hright := find_append_cons hp [] (before ++ rest')
      simp only [List.nil_append] at hleft hright
      rw [List.cons_append, List.cons_append, hleft, hright]

/-- A resolver that passes may as well be asked later. -/
theorem find_exchange_of_passes (h : q.Passes a t c) (after : List Resolver) :
    (find a t c (q :: r :: after)).2 = (find a t c (r :: q :: after)).2 := by
  rw [find_cons_of_passes h]
  by_cases hr : r.Passes a t c
  · simp only [find_cons_of_passes hr, find_cons_of_passes h]
  · have hleft := find_append_cons hr [] after
    have hright := find_append_cons hr [] (q :: after)
    simp only [List.nil_append] at hleft hright
    rw [hleft, hright]

theorem find_exchange (h : q.Passes a t c ∨ r.Passes a t c) (before after : List Resolver) :
    (find a t c (before ++ q :: r :: after)).2 = (find a t c (before ++ r :: q :: after)).2 := by
  apply find_append_congr
  rcases h with hq | hr
  · exact find_exchange_of_passes hq after
  · exact (find_exchange_of_passes hr after).symm

/-! ### What is found decides how a resolution ends -/

theorem require_ending (e : Outcome → AuditEvent) (required : Requirement) (c : RequestContext)
    (t : TargetService) (records records' : List LogRecord) :
    (require e required c t records).ending = (require e required c t records').ending := by
  unfold require
  dsimp only
  split
  · rfl
  · split <;> rfl

theorem judge_ending (chain : Chain) (e : Outcome → AuditEvent) (m : Text) (s : Source)
    (c : RequestContext) (t : TargetService) (records records' : List LogRecord) :
    (chain.judge e m s c t records).ending = (chain.judge e m s c t records').ending := by
  unfold judge
  dsimp only
  split
  · rfl
  · rfl
  · split
    · rfl
    · exact require_ending _ _ _ _ _ _

/-- Two chains with one verifier that come to the same finding end a resolution in the same way. -/
theorem ending_of_find_eq {chain chain' : Chain} (hverifier : chain.verifier = chain'.verifier)
    (hfind : (find a t c chain.resolvers).2 = (find a t c chain'.resolvers).2) :
    (chain.resolve a (some t) c).ending = (chain'.resolve a (some t) c).ending := by
  obtain ⟨resolvers, verifier⟩ := chain
  obtain ⟨resolvers', verifier'⟩ := chain'
  cases hverifier
  rcases h : find a t c resolvers with ⟨records, finding⟩
  rcases h' : find a t c resolvers' with ⟨records', finding'⟩
  have hsame : finding = finding' := by
    rw [h, h'] at hfind
    exact hfind
  subst hsame
  cases finding with
  | nothing => simp [resolve, h, h', told, Resolution.ending]
  | failure name s f => simp [resolve, h, h', told, Resolution.ending]
  | candidate m s =>
    simp only [resolve, h, h']
    exact judge_ending ⟨resolvers, verifier⟩ _ _ _ _ _ _ _

/-- Of two neighbours that never both have something to say either may be asked first. -/
theorem ending_exchange (v : Verifier) (a : Option Authentication) (c : RequestContext)
    (h : ∀ t, q.Passes a t c ∨ r.Passes a t c) (before after : List Resolver)
    (target : Option TargetService) :
    ((Chain.mk (before ++ q :: r :: after) v).resolve a target c).ending =
      ((Chain.mk (before ++ r :: q :: after) v).resolve a target c).ending := by
  cases target with
  | none => rfl
  | some t =>
    have hfind := find_exchange (h t) before after
    let chain : Chain := ⟨before ++ q :: r :: after, v⟩
    let exchanged : Chain := ⟨before ++ r :: q :: after, v⟩
    have hverifier : chain.verifier = exchanged.verifier := rfl
    exact ending_of_find_eq hverifier hfind

end Chain

/-! ## The two steps -/

/-- The definition of the target leaves the decision to its role rule. -/
def ServiceDirectory.Deferring (definitions : List ServiceDefinition) (t : TargetService)
    (d : ServiceDefinition) : Prop :=
  Governing definitions t.id d ∧ d.defersToRoles = true

namespace Resolver

variable {definitions : List ServiceDefinition} {entries : List (Text × Authentication)}
  {a : Option Authentication} {t : TargetService} {c : RequestContext} {d : ServiceDefinition}

/-- What the resolver for registered services does about a definition that defers: it says so in
the log and abstains. -/
def deferral (d : ServiceDefinition) (c : RequestContext) : Proposal :=
  .abstain [debug c "service_defers_to_mfa_roles"
    ("Service '" ++ d.id ++ "' declares role rules, deferring")]

theorem registeredService_of_deferring (h : ServiceDirectory.Deferring definitions t d)
    (property : Text) (default : Option Text) (a : Option Authentication) (c : RequestContext) :
    (registeredService (.ofList definitions) property default).propose a t c = deferral d c := by
  obtain ⟨hgoverning, hdefers⟩ := h
  have hfind := ServiceDirectory.find_ofList_iff.mpr hgoverning
  simp only [registeredService, hfind, ofDefinition, hdefers, if_true]
  rfl

/-- A definition that states a role rule has both of its properties. -/
theorem defersToRoles_of_states {rules : RoleRules} {rule : RoleRule} (h : rules.States d rule) :
    d.defersToRoles = true := by
  simp [ServiceDefinition.defersToRoles, ServiceDefinition.hasProperty, h.attributeName]

/-- The role resolver abstains unless the definition of the target defers. -/
theorem mfaRole_of_undeferred (h : ∀ d, ¬ ServiceDirectory.Deferring definitions t d)
    (rules : RoleRules) (selection : RoleSelection) :
    ((mfaRole rules (.ofList definitions) (.ofList entries) selection).propose a t c).outcome =
      .ok none := by
  have hunstated : ∀ rule u,
      ¬ rules.Applies (.ofList definitions) (.ofList entries) t c rule u := by
    intro rule u happlies
    obtain ⟨d, hd, hstates⟩ := happlies.stated
    exact h d ⟨ServiceDirectory.find_ofList_iff.mp hd, defersToRoles_of_states hstates⟩
  apply mfaRole_of_neither ⟨_, rfl⟩ (fun ticket => ⟨_, rfl⟩)
  · intro rule u happlies
    exact absurd happlies (hunstated rule u)
  · intro rule u f happlies
    exact absurd happlies (hunstated rule u)

theorem mfaRole_deferring {rules : RoleRules} {selection : RoleSelection}
    (h : ((mfaRole rules (.ofList definitions) (.ofList entries) selection).propose a t c).outcome ≠
      .ok none) : ∃ d, ServiceDirectory.Deferring definitions t d := by
  by_contra hnone
  exact h (mfaRole_of_undeferred (not_exists.mp hnone) rules selection)

/-- One of the two steps passes, whatever the target. -/
theorem service_or_role_passes (definitions : List ServiceDefinition)
    (entries : List (Text × Authentication)) (property : Text) (default : Option Text)
    (rules : RoleRules) (selection : RoleSelection) (a : Option Authentication)
    (t : TargetService) (c : RequestContext) :
    (registeredService (.ofList definitions) property default).Passes a t c ∨
      (mfaRole rules (.ofList definitions) (.ofList entries) selection).Passes a t c := by
  by_cases h : ∃ d, ServiceDirectory.Deferring definitions t d
  · obtain ⟨d, hd⟩ := h
    left
    apply passes_of_abstains
    rw [registeredService_of_deferring hd]
    rfl
  · right
    apply passes_of_abstains
    exact mfaRole_of_undeferred (not_exists.mp h) rules selection

end Resolver

/-! ## Their order -/

/-- **Service step and role step do not compete.** With services and authentications held in
lists, whatever the registry, the property they share, the default, the user, the target and the
request: the two never both propose a method, and where the role resolver proposes one or fails,
the definition of the target defers and the resolver for registered services says so. In the chain
of a configuration the two are neighbours, and with the two exchanged every resolution gives the
same answer, leaves context and target the same and is told by the same audit event. -/
theorem service_and_role_exchange (definitions : List ServiceDefinition)
    (entries : List (Text × Authentication)) :
    (∀ registry property default selection a t ctx,
      let service := Resolver.registeredService (.ofList definitions) property default
      let role := Resolver.mfaRole ⟨registry, property⟩ (.ofList definitions) (.ofList entries)
        selection
      ¬ ((∃ m, (service.propose a t ctx).outcome = .ok (some m)) ∧
          ∃ m, (role.propose a t ctx).outcome = .ok (some m)) ∧
        ((role.propose a t ctx).outcome ≠ .ok none →
          ∃ d, ServiceDirectory.Deferring definitions t d ∧
            service.propose a t ctx = Resolver.deferral d ctx)) ∧
      ∀ c chain, Chain.ofConfig? c (.ofList definitions) (some (.ofList entries)) = .ok chain →
        let service := Resolver.registeredService (.ofList definitions) c.serviceMethodProperty
          c.defaultMethod
        let role := Resolver.mfaRole ⟨chain.verifier.registry, c.serviceMethodProperty⟩
          (.ofList definitions) (.ofList entries) c.roleSelection
        ∃ before after, chain.resolvers = before ++ service :: role :: after ∧
          ∀ a target ctx,
            (chain.resolve a target ctx).ending =
              ((Chain.mk (before ++ role :: service :: after) chain.verifier).resolve a target
                ctx).ending := by
  constructor
  · intro registry property default selection a t ctx service role
    have hdefers : (role.propose a t ctx).outcome ≠ .ok none →
        ∃ d, ServiceDirectory.Deferring definitions t d ∧
          service.propose a t ctx = Resolver.deferral d ctx := by
      intro h
      obtain ⟨d, hd⟩ := Resolver.mfaRole_deferring h
      exact ⟨d, hd, Resolver.registeredService_of_deferring hd property default a ctx⟩
    refine ⟨?_, hdefers⟩
    rintro ⟨⟨m, hservice⟩, ⟨n, hrole⟩⟩
    obtain ⟨d, -, hdeferral⟩ := hdefers (by rw [hrole]; nofun)
    rw [hdeferral] at hservice
    cases hservice
  · intro c chain hchain
    obtain ⟨registry, -, hmake⟩ := exceptBind_eq_ok_iff.mp hchain
    cases hmake
    refine ⟨[.requestParameter c.methodParameter], c.attributeStep registry, rfl, ?_⟩
    intro a target ctx
    have hpasses := fun t => Resolver.service_or_role_passes definitions entries
      c.serviceMethodProperty c.defaultMethod ⟨registry, c.serviceMethodProperty⟩ c.roleSelection
      a t ctx
    exact Chain.ending_exchange _ a ctx hpasses [.requestParameter c.methodParameter] _ target

/-- The pattern of the rule cannot be evaluated, so that the role resolver fails. Before it or
behind it, the resolver for registered services defers, and the resolution fails either way. -/
theorem service_and_role_exchange_broken :
    let hr : ServiceDefinition := ⟨"hr", "https://hr/*", none,
      [("mfa_attribute_name", "groups"), ("mfa_attribute_pattern", "a{4294967296}"),
        ("authn_method", "sms")]⟩
    let c : Config := { methods := [⟨"sms", 1⟩], defaultMethod := some "sms", services := [hr] }
    let store : List (Text × Authentication) := [("TGT-1", ⟨⟨"ann", []⟩⟩)]
    let t : TargetService := { id := "https://hr/pay" }
    let ctx : RequestContext :=
      ⟨[], [("ticketGrantingTicketId", .str "TGT-1")], "r1", false⟩
    let f : HostFailure := ⟨"OverflowError", "the repetition number is too large"⟩
    let registry : Registry := ⟨c.methods, by decide⟩
    let service := Resolver.registeredService (.ofList [hr]) "authn_method" (some "sms")
    let role := Resolver.mfaRole ⟨registry, "authn_method"⟩ (.ofList [hr]) (.ofList store)
      .firstMatch
    ∃ chain, Chain.ofConfig? c (.ofList [hr]) (some (.ofList store)) = .ok chain ∧
      (role.propose none t ctx).outcome = .error f ∧
      service.propose none t ctx = Resolver.deferral hr ctx ∧
      ∃ before after, chain.resolvers = before ++ service :: role :: after ∧
        ((Chain.mk (before ++ role :: service :: after) chain.verifier).resolve none (some t)
          ctx).ending.answer = .error (.failed (Chain.failureReason "MfaRoleResolver" f)) := by
  intro hr c store t ctx f registry service role
  have hregistry : Registry.ofList? c.methods = .ok registry := dif_pos (by decide)
  have hchain : Chain.ofConfig? c (.ofList [hr]) (some (.ofList store)) =
      .ok ⟨c.resolvers registry (.ofList [hr]) (some (.ofList store)),
        { registry := registry }⟩ := by
    simp only [Chain.ofConfig?, hregistry]
    rfl
  have hraised : (role.propose none t ctx).outcome = .error f := by cbv
  have hanswer : ((Chain.mk (c.resolvers registry (.ofList [hr]) (some (.ofList store)))
      { registry := registry }).resolve none (some t) ctx).ending.answer =
        .error (.failed (Chain.failureReason "MfaRoleResolver" f)) := by cbv
  obtain ⟨hsteps, hchains⟩ := service_and_role_exchange [hr] store
  obtain ⟨-, hdeferral⟩ := hsteps registry "authn_method" (some "sms") .firstMatch none t ctx
  obtain ⟨before, after, hsplit, hsame⟩ := hchains c _ hchain
  have hproposes : (role.propose none t ctx).outcome ≠ .ok none := by
    rw [hraised]
    intro h
    cases h
  obtain ⟨d, hd, hservice⟩ := hdeferral hproposes
  have hgoverns : ServiceDirectory.Governing [hr] t.id hr :=
    ServiceDirectory.find_ofList_iff.mp (by cbv)
  refine ⟨_, hchain, hraised, ?_, before, after, hsplit, ?_⟩
  · cases (ServiceDirectory.find_ofList_iff.mpr hd.1).symm.trans
      (ServiceDirectory.find_ofList_iff.mpr hgoverns)
    exact hservice
  · rw [← hsame none (some t) ctx]
    exact hanswer

end StepUp
