import StepUp.Proofs.Config.Policy
import StepUp.Proofs.Session.Audit

/-!
# Who can cause a rejection

The last two resolvers of a configuration, which look at roles and at attributes of the user,
propose nothing but names of configured methods (`Config.Valid.mem_of_user`). An unsupported
candidate is hence named by the request or else by the definition of its target
(`Config.Names`), and what one of these names is the candidate, supported or not
(`Config.Valid.proposes_of_names`, `Config.Valid.names_of_proposes`). So it can be told from the
two alone whether a call is rejected, whether it is let pass, and whether it marks the request
(`rejection_named`).
-/

namespace StepUp

namespace Config

/-- What the request, or else the definition of the target, names as a method. -/
inductive Names (c : Config) (services : ServiceDirectory) (t : TargetService)
    (ctx : RequestContext) : Text → Source → Prop where
  /-- The parameter of the request asks for the method. -/
  | parameter {m : Text} (asked : ctx.Asks c.methodParameter m) :
      Names c services t ctx m .requestParameter
  /-- It does not ask for any, and the definition demands the method. -/
  | service {d : ServiceDefinition} {m : Text} (unasked : ∀ m, ¬ ctx.Asks c.methodParameter m)
      (governed : services.find t.id = .ok (some d))
      (demanded : d.Demands c.serviceMethodProperty c.defaultMethod m) :
      Names c services t ctx m .registeredService

/-- What is named for the target, if there is one, is not configured. -/
def NamesUnsupported (c : Config) (services : ServiceDirectory) (target : Option TargetService)
    (ctx : RequestContext) : Prop :=
  ∃ t m s, target = some t ∧ c.Names services t ctx m s ∧ m ∉ c.methodNames

namespace Valid

variable {c : Config} (h : c.Valid) {services : ServiceDirectory}
  {store : Option AuthenticationStore} {a : Option Authentication} {t : TargetService}
  {target : Option TargetService} {ctx : RequestContext} {r : Resolver} {m : Text} {s : Source}

/-! ## Candidates -/

/-- The resolvers that look at roles and attributes propose configured methods only. -/
theorem mem_of_user (hr : r ∈ (h.chain services store).resolvers)
    (hsource : r.source = .mfaRole ∨ r.source = .principalAttribute)
    (hm : (r.propose a t ctx).outcome = .ok (some m)) : m ∈ c.methodNames := by
  rcases mem_resolvers_iff.mp hr with rfl | rfl | ⟨_, -, rfl⟩ | ⟨_, -, -, rfl⟩
  · simp [Resolver.requestParameter] at hsource
  · simp [Resolver.registeredService] at hsource
  · obtain ⟨_, rule, -, hstates, rfl⟩ := Resolver.mfaRole_proposes hm
    exact Registry.name_mem_names hstates.member
  · obtain ⟨_, -, hcarries⟩ := Resolver.principalAttribute_outcome_iff.mp hm
    exact hcarries.2

/-- What is named is the candidate. -/
theorem proposes_of_names (hnames : c.Names services t ctx m s) :
    ∃ r, (h.chain services store).Proposes a t ctx r m ∧ r.source = s := by
  cases hnames with
  | parameter asked =>
    have hout := Resolver.requestParameter_of_asked (a := a) (t := t) asked
    have hpasses := Resolver.not_passes_of_proposes hout asked.nonblank
    exact ⟨_, ⟨⟨[], _, resolvers_eq .., nofun, hpasses⟩, hout⟩, rfl⟩
  | service unasked governed demanded =>
    have hout : ((Resolver.registeredService services c.serviceMethodProperty
        c.defaultMethod).propose a t ctx).outcome = .ok (some m) :=
      Resolver.registeredService_outcome_iff.mpr ⟨_, governed, demanded⟩
    refine ⟨_, ⟨⟨[.requestParameter c.methodParameter], _, resolvers_eq .., ?_,
      Resolver.not_passes_of_proposes hout demanded.nonblank⟩, hout⟩, rfl⟩
    intro q hq
    cases List.mem_singleton.mp hq
    exact requestParameter_passes unasked

/-- A candidate that is not named is configured. -/
theorem names_of_proposes (hr : (h.chain services store).Proposes a t ctx r m) :
    c.Names services t ctx m r.source ∨ m ∈ c.methodNames := by
  by_cases asked : ∃ n, ctx.Asks c.methodParameter n
  · -- then what is asked for is the candidate
    obtain ⟨n, asked⟩ := asked
    obtain ⟨q, hq, hsource⟩ : ∃ q, (h.chain services store).Proposes a t ctx q n ∧
        q.source = .requestParameter := h.proposes_of_names (.parameter asked)
    have hfound := (Chain.find_of_proposes hq).symm.trans (Chain.find_of_proposes hr)
    rw [hsource] at hfound
    injection hfound with hm hs
    rw [← hm, ← hs]
    exact Or.inl (.parameter asked)
  · have unasked := not_exists.mp asked
    rcases mem_resolvers_iff.mp hr.1.mem with rfl | rfl | ⟨_, -, rfl⟩ | ⟨_, -, -, rfl⟩
    · exact absurd (requestParameter_passes unasked) hr.1.not_passes
    · obtain ⟨d, governed, demanded⟩ := Resolver.registeredService_outcome_iff.mp hr.2
      exact Or.inl (.service unasked governed demanded)
    · exact Or.inr (h.mem_of_user hr.1.mem (Or.inl rfl) hr.2)
    · exact Or.inr (h.mem_of_user hr.1.mem (Or.inr rfl) hr.2)

/-! ## Calls -/

section Calls

variable {k : Call} (hchain : k.chain = h.chain services store)

include hchain

theorem candidate_unsupported_iff : (∃ r m, k.Candidate r m ∧ m ∉ c.methodNames) ↔
    c.NamesUnsupported services k.target k.context := by
  unfold Call.Candidate
  rw [hchain]
  constructor
  · rintro ⟨r, m, ⟨t, ht, proposed⟩, unsupported⟩
    have hnames := (h.names_of_proposes proposed).resolve_right unsupported
    exact ⟨t, m, r.source, ht, hnames, unsupported⟩
  · rintro ⟨t, m, s, ht, hnames, unsupported⟩
    obtain ⟨r, proposed, -⟩ := h.proposes_of_names hnames
    exact ⟨r, m, ⟨t, ht, proposed⟩, unsupported⟩

theorem endsAs_rejected_iff : k.EndsAs .rejected ↔
    k.context.marker = false ∧ c.NamesUnsupported services k.target k.context := by
  rw [← h.candidate_unsupported_iff hchain]
  obtain ⟨chain, user, target, context⟩ := k
  subst hchain
  constructor
  · rintro ⟨x, hx⟩
    obtain ⟨-, unmarked, -, t, r, m, ht, proposed, unsupported, -⟩ :=
      (Chain.ends_resolve _ user target context).of_rejected hx
    exact ⟨unmarked, r, m, ⟨t, ht, proposed⟩, unsupported⟩
  · rintro ⟨unmarked, r, m, ⟨t, rfl, proposed⟩, unsupported⟩
    have hending := Chain.ending_of_ends (.rejected proposed rfl unsupported unmarked)
    exact ⟨_, congrArg Ending.answer hending⟩

theorem endsAs_suppressed_iff : k.EndsAs .suppressed ↔
    k.context.marker = true ∧ c.NamesUnsupported services k.target k.context := by
  rw [← h.candidate_unsupported_iff hchain]
  obtain ⟨chain, user, target, context⟩ := k
  subst hchain
  constructor
  · rintro ⟨-, marked, hcandidate⟩
    exact ⟨marked, hcandidate⟩
  · rintro ⟨marked, r, m, ⟨t, rfl, proposed⟩, unsupported⟩
    have hending := Chain.ending_of_ends (.suppressed proposed rfl unsupported marked)
    exact ⟨congrArg Ending.answer hending, marked, r, m, ⟨t, rfl, proposed⟩, unsupported⟩

/-- Only a rejection marks the request. -/
theorem marker_iff : k.resolution.context.marker = true ↔
    k.context.marker = true ∨ c.NamesUnsupported services k.target k.context := by
  have hends := k.chain.ends_resolve k.user k.target k.context
  have hiff := h.endsAs_rejected_iff hchain
  by_cases hrejected : k.EndsAs .rejected
  · obtain ⟨x, hx⟩ := id hrejected
    obtain ⟨-, -, hmarked, -⟩ := hends.of_rejected hx
    have hcontext : k.resolution.context = k.context.marked := hmarked
    rw [hcontext]
    exact iff_of_true rfl (Or.inr (hiff.mp hrejected).2)
  · have hcontext : k.resolution.context = k.context :=
      hends.context_eq fun x hx => hrejected ⟨x, hx⟩
    rw [hcontext]
    constructor
    · exact Or.inl
    · rintro (marked | named)
      · exact marked
      · by_contra unmarked
        exact hrejected (hiff.mpr ⟨Bool.eq_false_iff.mpr unmarked, named⟩)

/-- What is not supported is named by the request or by the definition of its target. -/
theorem source_of_unsupported (hnamed : c.NamesUnsupported services k.target k.context) :
    ∃ r m, k.Candidate r m ∧ m ∉ c.methodNames ∧
      (r.source = .requestParameter ∨ r.source = .registeredService) := by
  obtain ⟨t, m, s, ht, hnames, unsupported⟩ := hnamed
  obtain ⟨r, proposed, hsource⟩ := h.proposes_of_names hnames
  refine ⟨r, m, ⟨t, ht, hchain ▸ proposed⟩, unsupported, ?_⟩
  rw [hsource]
  cases hnames with
  | parameter => exact Or.inl rfl
  | service => exact Or.inr rfl

end Calls

end Valid

end Config

/-- **Who can cause a rejection.** Take a valid configuration, any directory of services and any
store. What the resolvers for roles and for attributes of the user propose is configured, whatever
the roles, the rules and the attributes are. A call of the chain is rejected, or let pass for want
of a supported method, just if the parameter of the request or else the definition of its target
names a method that is not configured, and its candidate comes from there; nothing else marks the
request. None of this depends on the user, on the store or on the scope of the flow. -/
theorem rejection_named {v : Json} {c : Config} (valid : Config.check v = .ok c)
    (services : ServiceDirectory) (store : Option AuthenticationStore) :
    ∃ chain, Chain.ofConfig? c services store = .ok chain ∧
      (∀ r ∈ chain.resolvers, r.source = .mfaRole ∨ r.source = .principalAttribute →
        ∀ a t ctx m, (r.propose a t ctx).outcome = .ok (some m) → m ∈ c.methodNames) ∧
      ∀ k : Call, k.chain = chain →
        let named := c.NamesUnsupported services k.target k.context
        (k.EndsAs .rejected ↔ k.context.marker = false ∧ named) ∧
        (k.EndsAs .suppressed ↔ k.context.marker = true ∧ named) ∧
        (k.resolution.context.marker = true ↔ k.context.marker = true ∨ named) ∧
        (k.EndsAs .rejected ∨ k.EndsAs .suppressed → ∃ r m, k.Candidate r m ∧
          m ∉ c.methodNames ∧
            (r.source = .requestParameter ∨ r.source = .registeredService)) := by
  have h := Config.valid_of_check valid
  refine ⟨_, h.ofConfig?_eq services store, fun r hr hsource a t ctx m => ?_, fun k hk => ?_⟩
  · exact h.mem_of_user hr hsource
  · have hrejected := h.endsAs_rejected_iff hk
    have hsuppressed := h.endsAs_suppressed_iff hk
    refine ⟨hrejected, hsuppressed, h.marker_iff hk, ?_⟩
    rintro (hends | hends)
    · exact h.source_of_unsupported hk (hrejected.mp hends).2
    · exact h.source_of_unsupported hk (hsuppressed.mp hends).2

/-- The attribute of the user and the role rule, which all of her groups match, name methods that
nobody has configured. She is not rejected, and no request is marked, until a parameter asks for
such a method. -/
theorem rejection_named_stale :
    let hr : ServiceDefinition := ⟨"hr", "https://hr/*", none,
      [("mfa_attribute_name", "groups"), ("mfa_attribute_pattern", ".*"),
        ("authn_method", "retina")]⟩
    let v : Json := .obj [
      ("authentication_methods", .arr [.obj [("name", .str "sms"), ("rank", .int 1)]]),
      ("services", .arr [Config.serviceJson hr])]
    let c : Config := { methods := [⟨"sms", 1⟩], services := [hr] }
    let services : ServiceDirectory := .ofList c.services
    let ann : Authentication := ⟨⟨"ann", [("authn_method", .arr [.int 7, .str " ", .str "otp"]),
      ("groups", .arr [.null, .str "clerk", .arr [.str "admin"]])]⟩⟩
    let t : TargetService := { id := "https://hr/pay" }
    let scope : List (Text × Json) := [("ticketGrantingTicketId", .str "TGT-1")]
    Config.check v = .ok c ∧
      ∃ chain, Chain.ofConfig? c services (some (.ofList [("TGT-1", ann)])) = .ok chain ∧
        let stale : Call := ⟨chain, some ann, some t, ⟨[], scope, "r1", false⟩⟩
        let asking : Call :=
          ⟨chain, some ann, some t, ⟨[("authn_method", .str "otp")], scope, "r2", false⟩⟩
        ¬ stale.EndsAs .rejected ∧ stale.resolution.context.marker ≠ true ∧
          asking.EndsAs .rejected := by
  intro hr v c services ann t scope
  have valid : Config.check v = .ok c := by cbv
  obtain ⟨chain, hchain, -, hcalls⟩ :=
    rejection_named valid services (some (.ofList [("TGT-1", ann)]))
  refine ⟨valid, chain, hchain, ?_⟩
  intro stale asking
  obtain ⟨hrejected, -, hmarker, -⟩ := hcalls stale rfl
  obtain ⟨hasked, -⟩ := hcalls asking rfl
  have hgoverned : services.find t.id = .ok (some hr) := by cbv
  have hnothing : ¬ c.NamesUnsupported services stale.target stale.context := by
    rintro ⟨t, m, s, ⟨⟩, hnames, -⟩
    cases hnames with
    | parameter asked =>
      obtain ⟨_, hnone, -⟩ := asked
      cases hnone
    | service unasked governed demanded =>
      -- the definition has the properties of a role rule
      cases hgoverned.symm.trans governed
      exact absurd demanded.plain.1 (by decide)
  refine ⟨fun h => hnothing (hrejected.mp h).2, fun h => ?_, ?_⟩
  · rcases hmarker.mp h with ⟨⟨⟩⟩ | h
    exact hnothing h
  · exact hasked.mpr ⟨rfl, t, "otp", _, rfl,
      .parameter ⟨_, rfl, by simp, rfl, by decide⟩, by decide⟩

end StepUp
