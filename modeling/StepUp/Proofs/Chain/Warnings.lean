import StepUp.Proofs.Chain.Tracing
import StepUp.Proofs.Role.Refusal

/-!
# What is worth a warning

Resolvers, verifier and chain explain what they do below the level of warnings. One thing only is
worth a warning: a role rule with a malformed pattern (`RoleRules.Broken`). The search through the
chain of a configuration warns of what is recorded about the rule that it consults
(`Config.find_warnings_of_consulted`), and of nothing where it consults none
(`Config.find_warnings_of_unconsulted`); what becomes of the finding is never worth a warning
(`Chain.resolve_warnings`).
-/

namespace StepUp

/-- The records that tell a warning or something worse. -/
def warnings (records : List LogRecord) : List LogRecord :=
  records.filter fun x => x.level.reaches .warning

theorem warnings_append (xs ys : List LogRecord) :
    warnings (xs ++ ys) = warnings xs ++ warnings ys := List.filter_append xs ys

/-! ## A role rule -/

namespace RoleRules

variable {rules : RoleRules} {d : ServiceDefinition} {u : Authentication}

/-- The definition states a rule with a malformed pattern. -/
def Broken (rules : RoleRules) (d : ServiceDefinition) : Prop :=
  ∃ rule r, rules.States d rule ∧ Pattern.compile rule.pattern = .error r ∧ r.Malformed

/-- Of every other definition nothing is said that is worth a warning. -/
theorem warnings_of_unbroken (h : ¬ rules.Broken d) :
    warnings (rules.evaluate u d).records = [] := by
  by_cases hstated : ∃ rule, rules.States d rule
  · obtain ⟨rule, hstates⟩ := hstated
    have hrecords : (rules.evaluate u d).records = [] := by
      by_contra hne
      obtain ⟨complaint, position, hrefused⟩ := (evaluate_records_of_stated hstates).mp hne
      exact h ⟨rule, _, hstates, hrefused, complaint, position, rfl⟩
    rw [hrecords]
    rfl
  · obtain ⟨x, hlow, hevaluate⟩ := evaluate_quietly_of_unstated (a := u) (not_exists.mp hstated)
    rw [hevaluate, warnings, List.filter_singleton, hlow]
    rfl

end RoleRules

/-! ## Resolvers -/

namespace Resolver

variable {a : Option Authentication} {t : TargetService} {c : RequestContext}
  {rules : RoleRules} {services : ServiceDirectory} {store : AuthenticationStore}
  {selection : RoleSelection} {u : Authentication} {d : ServiceDefinition}

theorem requestParameter_warnings (parameter : Text) :
    warnings ((requestParameter parameter).propose a t c).records = [] := by
  unfold requestParameter
  dsimp only
  split <;> rfl

theorem registeredService_warnings (services : ServiceDirectory) (property : Text)
    (default : Option Text) :
    warnings ((registeredService services property default).propose a t c).records = [] := by
  unfold registeredService
  dsimp only
  split
  · rfl
  · rfl
  · unfold ofDefinition
    split
    · rfl
    · split
      · rfl
      · split <;> rfl

theorem principalAttribute_warnings (registry : Registry) (name : Text) :
    warnings ((principalAttribute registry name).propose a t c).records = [] := by
  unfold principalAttribute
  dsimp only
  split
  · rfl
  · split
    · rfl
    · split <;> rfl

theorem ofFinding_warnings (finding : RoleFinding) :
    warnings (ofFinding selection d c finding).records = warnings finding.records := by
  unfold ofFinding
  split
  · rfl
  · split
    · exact (warnings_append _ _).trans (List.append_nil _)
    · exact (warnings_append _ _).trans (List.append_nil _)

theorem mfaRole_warnings_of_put (h : PutsToRule services store t c u d) :
    warnings ((mfaRole rules services store selection).propose a t c).records =
      warnings (rules.evaluate u d).records := by
  rw [mfaRole_of_active h.active h.governing, ofFinding_warnings]

theorem mfaRole_warnings_of_not_put (h : ∀ u d, ¬ PutsToRule services store t c u d) :
    warnings ((mfaRole rules services store selection).propose a t c).records = [] := by
  unfold mfaRole
  dsimp only
  split
  · rfl
  · next ticket hticket =>
    split
    · rfl
    · rfl
    · next u hu =>
      split
      · rfl
      · rfl
      · next d hd => exact absurd ⟨hd, ticket, hticket, hu⟩ (h u d)

end Resolver

/-! ## Chains -/

namespace Chain

variable {chain : Chain} {a : Option Authentication} {t : TargetService} {c : RequestContext}
  {r : Resolver} {records : List LogRecord}

theorem find_warnings_of_quiet {resolvers : List Resolver}
    (h : ∀ r ∈ resolvers, warnings (r.propose a t c).records = []) :
    warnings (find a t c resolvers).1 = [] := by
  refine List.filter_eq_nil_iff.mpr fun x hx => ?_
  obtain ⟨r, hr, hx⟩ := exists_of_mem_find hx
  exact List.filter_eq_nil_iff.mp (h r hr) x hx

/-- Where no resolver warns but the first one, nobody else has anything to add. -/
theorem find_warnings_cons {rest : List Resolver}
    (h : ∀ q ∈ rest, warnings (q.propose a t c).records = []) :
    warnings (find a t c (r :: rest)).1 = warnings (r.propose a t c).records := by
  by_cases hr : r.Passes a t c
  · rw [find_cons_of_passes hr, warnings_append, find_warnings_of_quiet h, List.append_nil]
  · rw [find_cons_records hr]

theorem told_warnings (e : AuditEvent) (answer : Except ResolutionFault (Option Requirement))
    (c : RequestContext) (target : Option TargetService) (records : List LogRecord) :
    warnings (told e answer c target records).records = warnings records :=
  (warnings_append _ _).trans (List.append_nil _)

theorem require_warnings (e : Outcome → AuditEvent) (q : Requirement) (c : RequestContext)
    (t : TargetService) (records : List LogRecord) :
    warnings (require e q c t records).records = warnings records := by
  unfold require
  dsimp only
  split
  · exact told_warnings _ _ _ _ _
  · split <;> exact told_warnings _ _ _ _ _

theorem verify_warnings (v : Verifier) (method : Option Text) (t : TargetService)
    (c : RequestContext) : warnings (v.verify method t c).records = [] := by
  unfold Verifier.verify
  split
  · rfl
  · split <;> rfl

theorem judge_warnings (e : Outcome → AuditEvent) (method : Text) (source : Source)
    (c : RequestContext) (t : TargetService) (records : List LogRecord) :
    warnings (chain.judge e method source c t records).records = warnings records := by
  have hrecords : warnings (records ++ (chain.verifier.verify (some method) t c).records) =
      warnings records := by
    rw [warnings_append, verify_warnings, List.append_nil]
  unfold judge
  dsimp only
  split
  · rw [told_warnings, hrecords]
  · rw [told_warnings, hrecords]
  · split
    · exact hrecords
    · rw [require_warnings, hrecords]

/-- To the warnings of the search a resolution adds none. -/
theorem resolve_warnings (chain : Chain) (a : Option Authentication) (t : TargetService)
    (c : RequestContext) :
    warnings (chain.resolve a (some t) c).records =
      warnings (find a t c chain.resolvers).1 := by
  unfold resolve
  dsimp only
  split
  · next hfind => rw [hfind, told_warnings]
  · next hfind => rw [hfind, told_warnings]
  · next hfind => rw [hfind, judge_warnings]

end Chain

/-! ## The standard chain -/

namespace Config

variable {c : Config} {registry : Registry} {services : ServiceDirectory}
  {store : Option AuthenticationStore} {a : Option Authentication} {t : TargetService}
  {ctx : RequestContext} {u : Authentication} {d : ServiceDefinition}

theorem attributeStep_warnings : ∀ r ∈ c.attributeStep registry,
    warnings (r.propose a t ctx).records = [] := by
  intro r hr
  unfold attributeStep at hr
  split at hr
  · cases List.mem_singleton.mp hr
    exact Resolver.principalAttribute_warnings _ _
  · cases hr

/-- A resolution warns of what is recorded about the rule that it consults ... -/
theorem find_warnings_of_consulted (h : c.ConsultsRule services store t ctx u d) :
    warnings (Chain.find a t ctx (c.resolvers registry services store)).1 =
      warnings (RoleRules.evaluate ⟨registry, c.serviceMethodProperty⟩ u d).records := by
  obtain ⟨s, rfl, hput⟩ := h.put
  have hparameter : (Resolver.requestParameter c.methodParameter).Passes a t ctx :=
    requestParameter_passes h.unasked
  have hservice : (Resolver.registeredService services c.serviceMethodProperty
      c.defaultMethod).Passes a t ctx :=
    (registeredService_passes_iff hput.governing).mpr h.undemanded
  rw [resolvers_eq, Chain.find_cons_of_passes hparameter, Chain.find_cons_of_passes hservice,
    warnings_append, warnings_append, Resolver.requestParameter_warnings,
    Resolver.registeredService_warnings, List.nil_append, List.nil_append, roleStep,
    List.singleton_append, Chain.find_warnings_cons attributeStep_warnings,
    Resolver.mfaRole_warnings_of_put hput]

/-- ... and of nothing where it consults none. -/
theorem find_warnings_of_unconsulted (h : ∀ u d, ¬ c.ConsultsRule services store t ctx u d) :
    warnings (Chain.find a t ctx (c.resolvers registry services store)).1 = [] := by
  have hservice : warnings ((Resolver.registeredService services c.serviceMethodProperty
      c.defaultMethod).propose a t ctx).records = [] := Resolver.registeredService_warnings _ _ _
  have hrest : Resolver.Passes (.requestParameter c.methodParameter) a t ctx →
      Resolver.Passes (.registeredService services c.serviceMethodProperty c.defaultMethod)
        a t ctx →
      ∀ r ∈ c.roleStep registry services store ++ c.attributeStep registry,
        warnings (r.propose a t ctx).records = [] := by
    intro hparameter hpasses r hr
    rcases List.mem_append.mp hr with hr | hr
    · cases store with
      | none => cases hr
      | some s =>
        cases List.mem_singleton.mp hr
        refine Resolver.mfaRole_warnings_of_not_put fun u d hput => h u d ⟨?_, ?_, s, rfl, hput⟩
        · exact requestParameter_passes_iff.mp hparameter
        · exact (registeredService_passes_iff hput.governing).mp hpasses
    · exact attributeStep_warnings r hr
  rw [resolvers_eq]
  by_cases hparameter : (Resolver.requestParameter c.methodParameter).Passes a t ctx
  · rw [Chain.find_cons_of_passes hparameter, warnings_append,
      Resolver.requestParameter_warnings, List.nil_append]
    by_cases hpasses : (Resolver.registeredService services c.serviceMethodProperty
        c.defaultMethod).Passes a t ctx
    · rw [Chain.find_cons_of_passes hpasses, warnings_append, hservice, List.nil_append]
      exact Chain.find_warnings_of_quiet (hrest hparameter hpasses)
    · rw [Chain.find_cons_records hpasses, hservice]
  · rw [Chain.find_cons_records hparameter, Resolver.requestParameter_warnings]

end Config

end StepUp
