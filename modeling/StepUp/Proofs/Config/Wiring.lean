import StepUp.Proofs.Config.Policy

/-!
# Every valid configuration can be served

Two checks look for names that occur twice: the validation of a configuration lists the names that
are repeated, and a registry that is built from methods stops at the first name it has met before.
They agree on every list of names (`Registry.firstRepeated?_eq_none_iff`,
`Config.repeated_eq_nil_iff`), so that a registry of validated methods is never refused. Likewise
the text of a policy that passed validation is the text of a policy
(`RoleSelection.ofJson?_of_check`).

`valid_config_served` says what comes of a valid configuration: a chain over a registry of just the
configured methods, with the resolvers that the configuration and the host's store call for.
-/

namespace StepUp

/-! ## The text of a policy -/

theorem lookup_map_eq_find? {α : Type} (key : α → Text) (as : List α) (t : Text) :
    (as.map fun a => (key a, a)).lookup t = as.find? fun a => key a == t := by
  induction as with
  | nil => rfl
  | cons a rest ih =>
    rw [List.map_cons, List.lookup_cons, List.find?_cons, ih, Bool.beq_comm]

namespace RoleSelection

/-- A policy that a document may name is a policy. -/
theorem ofJson?_of_check {v : Json} {s : RoleSelection}
    (h : Json.checkChoice (all.map fun s => (s.text, s)) v = .ok s) : ofJson? v = some s := by
  cases v with
  | str t =>
    rw [Json.checkChoice] at h
    split at h
    · cases h
    · split at h
      · next hlookup =>
        cases h
        rw [lookup_map_eq_find?] at hlookup
        exact hlookup
      · cases h
  | _ => cases h

end RoleSelection

/-! ## What comes of a valid configuration -/

namespace Config

variable {c : Config} {registry : Registry} {services : ServiceDirectory}

theorem roleStep_eq_nil_iff {store : Option AuthenticationStore} :
    c.roleStep registry services store = [] ↔ store = none := by
  cases store with
  | none => exact ⟨fun _ => rfl, fun _ => rfl⟩
  | some store => exact ⟨nofun, nofun⟩

theorem attributeStep_of_named {name : Text} (h : c.principalMethodAttribute = some name)
    (hne : name ≠ []) : c.attributeStep registry = [.principalAttribute registry name] := by
  have hkept : c.principalMethodAttribute.filter (fun name => !name.isEmpty) = some name := by
    simp [h, Option.filter, hne]
  rw [attributeStep, hkept]

theorem attributeStep_eq_nil_iff : c.attributeStep registry = [] ↔
    c.principalMethodAttribute = none ∨ c.principalMethodAttribute = some [] := by
  cases h : c.principalMethodAttribute with
  | none => simp [attributeStep, h]
  | some name =>
    by_cases hne : name = []
    · subst hne
      simp [attributeStep, h, Option.filter]
    · simp [attributeStep_of_named h hne, hne]

/-- The document of a configuration names the policy that it has, or none at all, which means the
first match. -/
theorem roleSelection_of_check {v : Json} (h : check v = .ok c) :
    RoleSelection.ofJson? ((v.get? "role_selection").getD (.str RoleSelection.firstMatch.text)) =
      some c.roleSelection := by
  obtain ⟨entries, rfl, hfields, -⟩ := check_eq_ok_iff.mp h
  have hselection := hfields.selection
  rw [Json.get?]
  rw [Json.optional] at hselection
  split at hselection
  · next w hw =>
    rw [hw]
    exact RoleSelection.ofJson?_of_check (Checked.within_eq_ok_iff.mp hselection)
  · next hnone =>
    rw [hnone, ← Except.ok.inj hselection]
    rfl

end Config

/-- **Every valid configuration can be served.** Whatever directory of services and store of
authentications the host has, a configuration that validation accepts describes a chain: no name of
a method is met twice, and the text of the policy is one. The registry of the chain holds the
configured methods in their order, each once. The ways to look a name up agree with each other, and
a method that is found has the configured rank. The chain asks the request's parameter, then the
definition of the service, then the role rules where there is a store, and last the attribute of
the user where one is named. An audit sink is no part of a chain and so has no say in this. -/
theorem valid_config_served {v : Json} {c : Config} (valid : Config.check v = .ok c)
    (services : ServiceDirectory) (store : Option AuthenticationStore) :
    Registry.firstRepeated? [] c.methodNames = none ∧
      RoleSelection.ofJson?
        ((v.get? "role_selection").getD (.str RoleSelection.firstMatch.text)) =
          some c.roleSelection ∧
      ∃ chain, Chain.ofConfig? c services store = .ok chain ∧
        let r := chain.verifier.registry
        r.methods = c.methods ∧ r.names.Nodup ∧ chain.verifier.acceptance = .registered ∧
        (∀ n, (r.supports (some n) = true ↔ n ∈ c.methodNames) ∧
          (r.contains n = true ↔ n ∈ c.methodNames) ∧
          ((r.get? n).isSome = true ↔ n ∈ c.methodNames) ∧
          ∀ m, r.get? n = some m ↔ m ∈ c.methods ∧ m.name = n) ∧
        ∃ role user,
          chain.resolvers = [.requestParameter c.methodParameter,
            .registeredService services c.serviceMethodProperty c.defaultMethod] ++ role ++ user ∧
          (role = [] ↔ store = none) ∧
          (∀ s, store = some s →
            role = [.mfaRole ⟨r, c.serviceMethodProperty⟩ services s c.roleSelection]) ∧
          (user = [] ↔
            c.principalMethodAttribute = none ∨ c.principalMethodAttribute = some []) ∧
          ∀ name, c.principalMethodAttribute = some name → name ≠ [] →
            user = [.principalAttribute r name] := by
  have h := Config.valid_of_check valid
  have hfresh : Registry.firstRepeated? [] c.methodNames = none :=
    Registry.firstRepeated?_eq_none_iff.mpr ⟨h.distinct, fun _ _ => List.not_mem_nil⟩
  refine ⟨hfresh, Config.roleSelection_of_check valid, _, h.ofConfig?_eq services store, rfl,
    h.distinct, rfl, ?_, ?_⟩
  · intro n
    refine ⟨Registry.supports_some_iff, Registry.contains_iff, Registry.get?_isSome_iff, ?_⟩
    intro m
    exact Registry.get?_eq_some_iff
  · refine ⟨c.roleStep h.registry services store, c.attributeStep h.registry, rfl,
      Config.roleStep_eq_nil_iff, ?_, Config.attributeStep_eq_nil_iff, ?_⟩
    · rintro s rfl
      rfl
    · intro name hname hne
      exact Config.attributeStep_of_named hname hne

/-- Two methods of one rank, of which the names differ in case only, no attribute of the user, and
a store: three resolvers, and the second method is found under its own name. -/
theorem valid_config_served_otp :
    let v : Json := .obj [
      ("authentication_methods", .arr [.obj [("name", .str "otp"), ("rank", .int 3)],
        .obj [("name", .str "OTP"), ("rank", .int 3)]]),
      ("principal_method_attribute", .str []), ("role_selection", .str "highest_rank")]
    let c : Config :=
      { methods := [⟨"otp", 3⟩, ⟨"OTP", 3⟩], principalMethodAttribute := some []
        roleSelection := .highestRank }
    let services := ServiceDirectory.failing ⟨"OSError", "down"⟩
    let store := AuthenticationStore.ofList []
    Config.check v = .ok c ∧ ∃ chain, Chain.ofConfig? c services (some store) = .ok chain ∧
      chain.verifier.registry.get? "OTP" = some ⟨"OTP", 3⟩ ∧
      chain.verifier.registry.contains "Otp" = false ∧
      chain.resolvers = [.requestParameter "authn_method",
        .registeredService services "authn_method" none,
        .mfaRole ⟨chain.verifier.registry, "authn_method"⟩ services store .highestRank] := by
  intro v c services store
  have valid : Config.check v = .ok c := by cbv
  obtain ⟨-, -, chain, hchain, -, -, -, hviews, role, user, hresolvers, -, hrole, huser,
    -⟩ := valid_config_served valid services (some store)
  refine ⟨valid, chain, hchain, ((hviews "OTP").2.2.2 _).mpr ⟨by decide, rfl⟩, ?_, ?_⟩
  · rw [← Bool.not_eq_true, (hviews "Otp").2.1]
    decide
  · rw [hresolvers, hrole store rfl, huser.mpr (Or.inr rfl)]
    rfl

end StepUp
