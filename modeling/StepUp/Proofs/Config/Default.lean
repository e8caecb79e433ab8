import StepUp.Proofs.Config.Policy

/-!
# The default method

A service that names no method and has no role rule is to be reached by the default method of the
configuration. Validation makes sure that the default is a configured method, by its name as it
stands; the resolver proposes the name without the white space around it. The two agree for names
that have none (`default_honoured_iff`). For a name that has some, another method is required if
its name is what stripping leaves, and the request is rejected if there is none: validation rules
out neither (`default_honoured_iff_weaker`, `default_rejected_blanks`).
-/

namespace StepUp

/-- The situation in which the default decides: the definition of the target has no role
properties and names no method, and the request does not ask for one. -/
structure Config.LeftToDefault (c : Config) (services : ServiceDirectory) (t : TargetService)
    (ctx : RequestContext) : Prop where
  governed : ∃ d, services.find t.id = .ok (some d) ∧ d.Plain ∧
    d.Unnamed c.serviceMethodProperty
  unasked : ∀ m, ¬ ctx.Asks c.methodParameter m

namespace Config.Valid

variable {c : Config} {d : Text} {services : ServiceDirectory}
  {store : Option AuthenticationStore} {a : Option Authentication} {t : TargetService}
  {ctx : RequestContext}

theorem default_nonblank (h : c.Valid) (hd : c.defaultMethod = some d) : d.isBlank = false := by
  obtain ⟨m, hm, rfl⟩ := List.mem_map.mp (h.default_mem d hd)
  exact h.named m hm

/-- The registered service proposes the default without the white space around it. -/
theorem proposes_default (h : c.Valid) (hd : c.defaultMethod = some d)
    (hleft : c.LeftToDefault services t ctx) :
    (h.chain services store).Proposes a t ctx
      (.registeredService services c.serviceMethodProperty c.defaultMethod) d.strip := by
  obtain ⟨definition, hfind, plain, unnamed⟩ := hleft.governed
  have hdemands : definition.Demands c.serviceMethodProperty c.defaultMethod d.strip :=
    .default plain unnamed hd (h.default_nonblank hd)
  have hout : ((Resolver.registeredService services c.serviceMethodProperty
      c.defaultMethod).propose a t ctx).outcome = .ok (some d.strip) := by
    rw [Resolver.registeredService_of_governed hfind, Resolver.ofDefinition_outcome_iff]
    exact hdemands
  refine ⟨⟨[.requestParameter c.methodParameter], _, resolvers_eq .., ?_, ?_⟩, hout⟩
  · intro r hr
    cases List.mem_singleton.mp hr
    exact requestParameter_passes hleft.unasked
  · exact Resolver.not_passes_of_proposes hout hdemands.nonblank

theorem resolve_default_of_mem (h : c.Valid) (hd : c.defaultMethod = some d)
    (hleft : c.LeftToDefault services t ctx) (hbare : t.requirement = none) {m : Method}
    (hm : m ∈ c.methods) (hname : m.name = d.strip) :
    ((h.chain services store).resolve a (some t) ctx).answer =
        .ok (some ⟨m, .registeredService⟩) ∧
      ((h.chain services store).resolve a (some t) ctx).target =
        some { t with requirement := some ⟨m, .registeredService⟩ } := by
  have proposed : (h.chain services store).Proposes a t ctx _ d.strip :=
    h.proposes_default hd hleft
  have hends := Chain.ending_of_ends (.required (hname ▸ proposed) hm hbare)
  exact ⟨congrArg Ending.answer hends, congrArg Ending.target hends⟩

theorem resolve_default_of_not_mem (h : c.Valid) (hd : c.defaultMethod = some d)
    (hleft : c.LeftToDefault services t ctx) (hstrip : d.strip ∉ c.methodNames) :
    ((h.chain services store).resolve a (some t) ctx).answer =
      if ctx.marker then .ok none else .error (.rejected ⟨some d.strip, some t.id⟩) := by
  have proposed : (h.chain services store).Proposes a t ctx _ d.strip :=
    h.proposes_default hd hleft
  cases hm : ctx.marker with
  | false =>
    exact congrArg Ending.answer (Chain.ending_of_ends (.rejected proposed rfl hstrip hm))
  | true =>
    exact congrArg Ending.answer (Chain.ending_of_ends (.suppressed proposed rfl hstrip hm))

/-- The default itself is required if its name has no white space around it, and only then. -/
theorem default_required_iff (h : c.Valid) (hd : c.defaultMethod = some d)
    (hleft : c.LeftToDefault services t ctx) (hbare : t.requirement = none) :
    (∃ m ∈ c.methods, m.name = d ∧ ((h.chain services store).resolve a (some t) ctx).answer =
      .ok (some ⟨m, .registeredService⟩)) ↔ d.strip = d := by
  constructor
  · rintro ⟨m, hm, hname, hanswer⟩
    by_cases hstrip : d.strip ∈ c.methodNames
    · obtain ⟨m', hm', hname'⟩ := List.mem_map.mp hstrip
      cases hanswer.symm.trans (h.resolve_default_of_mem hd hleft hbare hm' hname').1
      exact hname'.symm.trans hname
    · have hother := hanswer.symm.trans (h.resolve_default_of_not_mem hd hleft hstrip)
      split at hother <;> cases hother
  · intro hstrip
    obtain ⟨m, hm, hname⟩ := List.mem_map.mp (h.default_mem d hd)
    exact ⟨m, hm, hname,
      (h.resolve_default_of_mem hd hleft hbare hm (hname.trans hstrip.symm)).1⟩

end Config.Valid

/-- **When the default method is honoured.** For a target without a requirement that is left to
the default of a valid configuration: the default, which is a configured method, is required with
its configured rank exactly when its name has no white space around it. In general the method
named by what stripping leaves is required, and where there is none, the request is rejected if it
is not marked and nothing is required if it is. -/
theorem default_honoured_iff {v : Json} {c : Config} (valid : Config.check v = .ok c) {d : Text}
    (default : c.defaultMethod = some d) (services : ServiceDirectory)
    (store : Option AuthenticationStore) (a : Option Authentication) {t : TargetService}
    {ctx : RequestContext} (left : c.LeftToDefault services t ctx) (bare : t.requirement = none) :
    d ∈ c.methodNames ∧ ∃ chain, Chain.ofConfig? c services store = .ok chain ∧
      ((∃ m ∈ c.methods, m.name = d ∧
          (chain.resolve a (some t) ctx).answer = .ok (some ⟨m, .registeredService⟩)) ↔
        d.strip = d) ∧
      (∀ m ∈ c.methods, m.name = d.strip →
        (chain.resolve a (some t) ctx).answer = .ok (some ⟨m, .registeredService⟩) ∧
          (chain.resolve a (some t) ctx).target =
            some { t with requirement := some ⟨m, .registeredService⟩ }) ∧
      (d.strip ∉ c.methodNames → (chain.resolve a (some t) ctx).answer =
        if ctx.marker then .ok none else .error (.rejected ⟨some d.strip, some t.id⟩)) := by
  have h := Config.valid_of_check valid
  refine ⟨h.default_mem d default, h.chain services store, h.ofConfig?_eq services store,
    h.default_required_iff default left bare, ?_, ?_⟩
  · intro m hm hname
    exact h.resolve_default_of_mem default left bare hm hname
  · exact h.resolve_default_of_not_mem default left

/-- Where the default is a strong method whose name differs from that of a weak one by white space
only, the weak one is required. -/
theorem default_honoured_iff_weaker :
    let v : Json := .obj [
      ("authentication_methods", .arr [.obj [("name", .str "sms"), ("rank", .int 1)],
        .obj [("name", .str " sms "), ("rank", .int 4)]]),
      ("default_authentication_method", .str " sms "),
      ("services", .arr [.obj [("id", .str "app"), ("service_id", .str "https://app/*")]])]
    let app : ServiceDefinition := ⟨"app", "https://app/*", none, []⟩
    let c : Config :=
      { methods := [⟨"sms", 1⟩, ⟨" sms ", 4⟩], defaultMethod := some " sms ", services := [app] }
    let t : TargetService := { id := "https://app/home" }
    let ctx : RequestContext := ⟨[], [], "r1", false⟩
    Config.check v = .ok c ∧
      ∃ chain, Chain.ofConfig? c (.ofList [app]) none = .ok chain ∧
        (chain.resolve none (some t) ctx).answer = .ok (some ⟨⟨"sms", 1⟩, .registeredService⟩) := by
  intro v app c t ctx
  have valid : Config.check v = .ok c := by cbv
  have left : c.LeftToDefault (.ofList [app]) t ctx :=
    ⟨⟨app, by cbv, ⟨by cbv, by cbv⟩, ServiceDefinition.unnamed_of_absent (by cbv)⟩,
      RequestContext.parameter?_eq_none_iff.mp (by cbv)⟩
  obtain ⟨-, chain, hchain, -, hrequired, -⟩ :=
    default_honoured_iff valid rfl (.ofList [app]) none none left rfl
  exact ⟨valid, chain, hchain, (hrequired ⟨"sms", 1⟩ (by simp [c]) (by cbv)).1⟩

/-- A configured default that is never honoured: the only method has white space around its name,
and a service that leaves the decision to the default cannot be reached, for the method is
rejected as unsupported. -/
theorem default_rejected_blanks :
    let v : Json := .obj [
      ("authentication_methods", .arr [.obj [("name", .str " sms "), ("rank", .int 1)]]),
      ("default_authentication_method", .str " sms "),
      ("services", .arr [.obj [("id", .str "app"), ("service_id", .str "https://app/*")]])]
    let app : ServiceDefinition := ⟨"app", "https://app/*", none, []⟩
    let c : Config :=
      { methods := [⟨" sms ", 1⟩], defaultMethod := some " sms ", services := [app] }
    let t : TargetService := { id := "https://app/home" }
    let ctx : RequestContext := ⟨[], [], "r1", false⟩
    Config.check v = .ok c ∧ c.LeftToDefault (.ofList [app]) t ctx ∧
      ∃ chain, Chain.ofConfig? c (.ofList [app]) none = .ok chain ∧
        (chain.resolve none (some t) ctx).answer =
          .error (.rejected ⟨some "sms", some "https://app/home"⟩) := by
  intro v app c t ctx
  have valid : Config.check v = .ok c := by cbv
  have h := Config.valid_of_check valid
  have left : c.LeftToDefault (.ofList [app]) t ctx :=
    ⟨⟨app, by cbv, ⟨by cbv, by cbv⟩, ServiceDefinition.unnamed_of_absent (by cbv)⟩,
      RequestContext.parameter?_eq_none_iff.mp (by cbv)⟩
  refine ⟨valid, left, _, h.ofConfig?_eq _ _, ?_⟩
  exact h.resolve_default_of_not_mem rfl left (by decide)

end StepUp
