import Mathlib.Data.List.TakeWhile
import StepUp.Config.Basic
import StepUp.Proofs.Chain.Search
import StepUp.Proofs.Method.Registry

/-!
# What the resolvers propose

Each of the three resolvers that look at one source is described by a relation that says what the
source holds:

* `RequestContext.Asks`: a parameter of the request asks for a method
  (`RequestContext.parameter?_eq_some_iff`, `Resolver.requestParameter_outcome`);
* `ServiceDefinition.Demands`: a definition without role properties demands a method of its own,
  or else the default without the white space around it (`Resolver.ofDefinition_outcome_iff`);
* `Authentication.Carries`: the first text among the values of an attribute of the user is a
  supported method (`Resolver.principalAttribute_outcome_iff`).

None of them fails unless the host's directory of services does.
-/

namespace StepUp

/-! ## Stripping -/

namespace Text

/-- A stripped text is empty or begins and ends with something else than white space. -/
theorem strip_eq_nil_or (m : Text) : m.strip = [] ∨ ∃ x ∈ m.strip, x.isSpace = false := by
  by_cases h : m.strip = []
  · exact Or.inl h
  · have hrev : ((m.dropWhile CodePoint.isSpace).reverse).dropWhile CodePoint.isSpace ≠ [] := by
      simpa [strip, trim] using h
    refine Or.inr ⟨_, ?_, List.head_dropWhile_not CodePoint.isSpace hrev⟩
    exact List.mem_reverse.mpr (List.head_mem hrev)

theorem isBlank_strip (m : Text) : m.strip.isBlank = m.isBlank := by
  rw [Bool.eq_iff_iff, isBlank_iff_strip_eq_nil (m := m)]
  constructor
  · intro hblank
    rcases m.strip_eq_nil_or with h | ⟨x, hx, hspace⟩
    · exact h
    · have hx' := List.all_eq_true.mp hblank x hx
      rw [hspace] at hx'
      cases hx'
  · intro h
    rw [h]
    rfl

end Text

/-! ## Parameters of the request -/

namespace RequestContext

variable {c : RequestContext} {name m : Text}

/-- A parameter asks for a method: it has a value, whose text is that method and not blank. -/
def Asks (c : RequestContext) (name m : Text) : Prop :=
  ∃ v, c.parameters.lookup name = some v ∧ v ≠ .null ∧ v.display = m ∧ m.isBlank = false

theorem parameter?_eq_some_iff : c.parameter? name = some m ↔ c.Asks name m := by
  unfold parameter? Asks
  cases c.parameters.lookup name with
  | none => simp
  | some v =>
    cases v with
    | null => simp
    | _ =>
      dsimp only
      split
      · next hblank =>
        simp only [reduceCtorEq, Option.some.injEq, false_iff]
        rintro ⟨_, rfl, -, rfl, hm⟩
        rw [hblank] at hm
        cases hm
      · next hblank =>
        rw [Bool.not_eq_true] at hblank
        constructor
        · intro h
          cases h
          exact ⟨_, rfl, nofun, rfl, hblank⟩
        · rintro ⟨_, h, -, rfl, -⟩
          cases h
          rfl

theorem Asks.nonblank (h : c.Asks name m) : m.isBlank = false := by
  obtain ⟨_, -, -, -, nonblank⟩ := h
  exact nonblank

theorem parameter?_eq_none_iff : c.parameter? name = none ↔ ∀ m, ¬ c.Asks name m := by
  simp [Option.eq_none_iff_forall_ne_some, parameter?_eq_some_iff]

end RequestContext

namespace Resolver

variable {a : Option Authentication} {t : TargetService} {c : RequestContext} {m : Text}

theorem passes_of_abstains {r : Resolver} (h : (r.propose a t c).outcome = .ok none) :
    r.Passes a t c := Or.inl h

theorem not_passes_of_proposes {r : Resolver} (h : (r.propose a t c).outcome = .ok (some m))
    (hm : m.isBlank = false) : ¬ r.Passes a t c :=
  (not_passes_iff_of_proposes h).mpr hm

theorem requestParameter_outcome (name : Text) :
    ((requestParameter name).propose a t c).outcome = .ok (c.parameter? name) := by
  unfold requestParameter
  dsimp only
  split
  · next h => rw [h]; rfl
  · next h => rw [h]

theorem requestParameter_of_asked {name : Text} (h : c.Asks name m) :
    ((requestParameter name).propose a t c).outcome = .ok (some m) := by
  rw [requestParameter_outcome, RequestContext.parameter?_eq_some_iff.mpr h]

end Resolver

/-! ## Definitions of services -/

namespace ServiceDefinition

variable {d : ServiceDefinition} {property : Text} {default : Option Text} {m : Text}

/-- The definition has neither property of a role rule. -/
def Plain (d : ServiceDefinition) : Prop :=
  d.property? roleAttributeProperty = none ∧ d.property? rolePatternProperty = none

theorem defersToRoles_eq_false_iff : d.defersToRoles = false ↔ d.Plain := by
  simp [defersToRoles, hasProperty, Plain]

/-- The definition names no method: the property is absent or blank. -/
def Unnamed (d : ServiceDefinition) (property : Text) : Prop :=
  ∀ m, d.property? property = some m → m.isBlank = true

theorem unnamed_of_absent {property : Text} (h : d.property? property = none) :
    d.Unnamed property := by
  intro m hm
  rw [h] at hm
  cases hm

/-- What a definition demands where the role rules do not decide. -/
inductive Demands (d : ServiceDefinition) (property : Text) (default : Option Text) :
    Text → Prop where
  /-- The method that it names. -/
  | own {m : Text} (plain : d.Plain) (named : d.property? property = some m)
      (nonblank : m.isBlank = false) : Demands d property default m
  /-- The default, for want of a method of its own. -/
  | default {m : Text} (plain : d.Plain) (unnamed : d.Unnamed property)
      (given : default = some m) (nonblank : m.isBlank = false) :
      Demands d property default m.strip

namespace Demands

theorem plain (h : d.Demands property default m) : d.Plain := by
  cases h <;> assumption

theorem nonblank (h : d.Demands property default m) : m.isBlank = false := by
  cases h with
  | own _ _ nonblank => exact nonblank
  | default _ _ _ nonblank => rw [Text.isBlank_strip, nonblank]

end Demands

end ServiceDefinition

namespace Resolver

variable {a : Option Authentication} {t : TargetService} {c : RequestContext} {m : Text}
  {d : ServiceDefinition} {property : Text} {default : Option Text}
  {services : ServiceDirectory}

theorem normalizedDefault_eq_some_iff : normalizedDefault default = some m ↔
    ∃ n, default = some n ∧ n.isBlank = false ∧ n.strip = m := by
  cases default with
  | none => simp [normalizedDefault]
  | some n =>
    have hblank : n.strip.isEmpty = n.isBlank := by
      rw [Bool.eq_iff_iff, Text.isBlank_iff_strip_eq_nil, List.isEmpty_iff]
    cases h : n.isBlank with
    | true => simp [normalizedDefault, Option.filter, hblank, h]
    | false => simp [normalizedDefault, Option.filter, hblank, h]

theorem ofDefinition_of_not_plain (h : ¬ d.Plain) :
    (ofDefinition property default d c).outcome = .ok none := by
  have hroles : d.defersToRoles = true := by
    rw [← Bool.not_eq_false, ServiceDefinition.defersToRoles_eq_false_iff]
    exact h
  simp only [ofDefinition, hroles, if_true]
  rfl

theorem ofDefinition_of_named (plain : d.Plain) (named : d.property? property = some m)
    (nonblank : m.isBlank = false) :
    (ofDefinition property default d c).outcome = .ok (some m) := by
  have hroles := ServiceDefinition.defersToRoles_eq_false_iff.mpr plain
  simp [ofDefinition, hroles, named, Option.filter, nonblank]

theorem ofDefinition_of_unnamed (plain : d.Plain) (unnamed : d.Unnamed property) :
    (ofDefinition property default d c).outcome = .ok default := by
  have hroles := ServiceDefinition.defersToRoles_eq_false_iff.mpr plain
  have hnone : ((d.property? property).filter fun t => !t.isBlank) = none := by
    cases hp : d.property? property with
    | none => rfl
    | some m => simp [Option.filter, unnamed m hp]
  simp only [ofDefinition, hroles, hnone, Bool.false_eq_true, if_false]
  cases default <;> rfl

theorem ofDefinition_outcome_iff :
    (ofDefinition property (normalizedDefault default) d c).outcome = .ok (some m) ↔
      d.Demands property default m := by
  constructor
  · intro h
    by_cases plain : d.Plain
    · by_cases unnamed : d.Unnamed property
      · rw [ofDefinition_of_unnamed plain unnamed, Except.ok.injEq,
          normalizedDefault_eq_some_iff] at h
        obtain ⟨n, given, nonblank, rfl⟩ := h
        exact .default plain unnamed given nonblank
      · obtain ⟨n, named, nonblank⟩ : ∃ n, d.property? property = some n ∧ n.isBlank = false := by
          simpa [ServiceDefinition.Unnamed] using unnamed
        rw [ofDefinition_of_named plain named nonblank] at h
        cases h
        exact .own plain named nonblank
    · rw [ofDefinition_of_not_plain plain] at h
      cases h
  · rintro (⟨plain, named, nonblank⟩ | ⟨plain, unnamed, given, nonblank⟩)
    · exact ofDefinition_of_named plain named nonblank
    · rw [ofDefinition_of_unnamed plain unnamed]
      exact congrArg _ (normalizedDefault_eq_some_iff.mpr ⟨_, given, nonblank, rfl⟩)

theorem ofDefinition_outcome_ok (property : Text) (default : Option Text)
    (d : ServiceDefinition) (c : RequestContext) :
    ∃ p, (ofDefinition property default d c).outcome = .ok p := by
  by_cases plain : d.Plain
  · by_cases unnamed : d.Unnamed property
    · exact ⟨_, ofDefinition_of_unnamed plain unnamed⟩
    · obtain ⟨n, named, nonblank⟩ : ∃ n, d.property? property = some n ∧ n.isBlank = false := by
        simpa [ServiceDefinition.Unnamed] using unnamed
      exact ⟨_, ofDefinition_of_named plain named nonblank⟩
  · exact ⟨_, ofDefinition_of_not_plain plain⟩

theorem registeredService_of_governed (h : services.find t.id = .ok (some d)) :
    ((registeredService services property default).propose a t c).outcome =
      (ofDefinition property (normalizedDefault default) d c).outcome := by
  simp only [registeredService, h]

theorem registeredService_of_ungoverned (h : services.find t.id = .ok none) :
    ((registeredService services property default).propose a t c).outcome = .ok none := by
  simp only [registeredService, h]
  rfl

theorem registeredService_outcome_iff :
    ((registeredService services property default).propose a t c).outcome = .ok (some m) ↔
      ∃ d, services.find t.id = .ok (some d) ∧ d.Demands property default m := by
  cases h : services.find t.id with
  | error f => simp [registeredService, h, Proposal.fail]
  | ok governing =>
    cases governing with
    | none => simp [registeredService_of_ungoverned h]
    | some d => simp [registeredService_of_governed h, ofDefinition_outcome_iff]

end Resolver

/-! ## Attributes of the user -/

theorem Principal.mem_attributeValues_iff {p : Principal} {name m : Text} :
    m ∈ p.attributeValues name ↔ .str m ∈ p.attributeEntries name ∧ m.isBlank = false := by
  have htext : ∀ v : Json, v.text? = some m ↔ v = .str m := by
    intro v
    cases v <;> simp [Json.text?]
  simp [attributeValues, htext]

/-- The first text of an attribute of the user, of those that are not blank, is a supported
method. -/
def Authentication.Carries (a : Authentication) (registry : Registry) (name m : Text) : Prop :=
  (a.principal.attributeValues name).head? = some m ∧ m ∈ registry.names

theorem Authentication.Carries.nonblank {a : Authentication} {registry : Registry} {name m : Text}
    (h : a.Carries registry name m) : m.isBlank = false :=
  (Principal.mem_attributeValues_iff.mp (List.mem_of_head? h.1)).2

namespace Resolver

variable {a : Option Authentication} {t : TargetService} {c : RequestContext} {m : Text}
  {registry : Registry} {name : Text}

theorem principalAttribute_of_head {u : Authentication} {v : Text}
    (h : (u.principal.attributeValues name).head? = some v) :
    ((principalAttribute registry name).propose (some u) t c).outcome =
      .ok (if registry.contains v then some v else none) := by
  obtain ⟨rest, hvalues⟩ := List.head?_eq_some_iff.mp h
  simp only [principalAttribute, hvalues]
  split <;> rfl

theorem principalAttribute_of_no_head {u : Authentication}
    (h : (u.principal.attributeValues name).head? = none) :
    ((principalAttribute registry name).propose (some u) t c).outcome = .ok none := by
  simp only [principalAttribute, List.head?_eq_none_iff.mp h]
  rfl

theorem principalAttribute_outcome_iff :
    ((principalAttribute registry name).propose a t c).outcome = .ok (some m) ↔
      ∃ u, a = some u ∧ u.Carries registry name m := by
  unfold Authentication.Carries
  cases a with
  | none => simp [principalAttribute, Proposal.abstain]
  | some u =>
    cases h : (u.principal.attributeValues name).head? with
    | none => simp [principalAttribute_of_no_head h, h]
    | some v =>
      have hmem : registry.contains v = true ↔ v ∈ registry.names := Registry.supports_some_iff
      by_cases hv : registry.contains v
      · have hmem := hmem.mp hv
        simp only [principalAttribute_of_head h, h, hv, if_true, Except.ok.injEq,
          Option.some.injEq, exists_eq_left']
        exact ⟨fun heq => ⟨heq, heq ▸ hmem⟩, fun hm => hm.1⟩
      · have hmem := mt hmem.mpr hv
        simp only [principalAttribute_of_head h, h, hv, Option.some.injEq, exists_eq_left']
        refine ⟨nofun, fun hm => absurd (hm.1 ▸ hm.2) hmem⟩

theorem principalAttribute_outcome_ok (registry : Registry) (name : Text)
    (a : Option Authentication) (t : TargetService) (c : RequestContext) :
    ∃ p, ((principalAttribute registry name).propose a t c).outcome = .ok p := by
  cases a with
  | none => exact ⟨none, rfl⟩
  | some u =>
    cases h : (u.principal.attributeValues name).head? with
    | none => exact ⟨_, principalAttribute_of_no_head h⟩
    | some v => exact ⟨_, principalAttribute_of_head h⟩

end Resolver

/-! ## The resolvers of a configuration -/

/-- Two resolvers always, one where there is a store, and one where an attribute of the user is
looked at. -/
theorem Config.mem_resolvers_iff {c : Config} {registry : Registry} {services : ServiceDirectory}
    {store : Option AuthenticationStore} {r : Resolver} :
    r ∈ c.resolvers registry services store ↔
      r = .requestParameter c.methodParameter ∨
      r = .registeredService services c.serviceMethodProperty c.defaultMethod ∨
      (∃ s, store = some s ∧
        r = .mfaRole ⟨registry, c.serviceMethodProperty⟩ services s c.roleSelection) ∨
      ∃ name, c.principalMethodAttribute = some name ∧ name ≠ [] ∧
        r = .principalAttribute registry name := by
  unfold resolvers
  cases c.principalMethodAttribute with
  | none => cases store <;> simp
  | some name =>
    by_cases hne : name = [] <;> cases store <;> simp [Option.filter, hne]

/-- The chain that a configuration describes. -/
theorem Chain.ofConfig?_eq_ok {c : Config} {services : ServiceDirectory}
    {store : Option AuthenticationStore} {chain : Chain}
    (h : ofConfig? c services store = .ok chain) : ∃ registry,
      chain = ⟨c.resolvers registry services store, { registry := registry }⟩ := by
  unfold ofConfig? at h
  cases hregistry : Registry.ofList? c.methods with
  | error f =>
    rw [hregistry] at h
    cases h
  | ok registry =>
    rw [hregistry] at h
    cases h
    exact ⟨registry, rfl⟩

end StepUp
