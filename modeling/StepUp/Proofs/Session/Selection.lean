import Mathlib
import StepUp.Proofs.Config.Sound
import StepUp.Proofs.Role.Resolver
import StepUp.Proofs.Session.Call

/-!
# The policy for role grants has no effect

What a role rule grants is always the one method of the rule (`RoleRules.granted_cases`), so that
the grant of highest rank is the first one, and the role resolver is the same under each policy
(`Resolver.mfaRole_selection`). The field of a configuration that sets the policy can be set to
another one (`Config.check_selection`), which leads to the same chain (`Chain.ofConfig?_selection`)
and hence to the same runs (`Session.selection_immaterial`), down to the role that is recorded.
-/

namespace StepUp

/-! ## Setting the policy in a document -/

theorem Json.putEntry_eq_putNamed (entries : List (Text × Json)) (k : Text) (v : Json) :
    putEntry entries k v = Session.putNamed k v entries := by
  induction entries with
  | nil => rfl
  | cons p rest ih => rw [putEntry, Session.putNamed, ih]

theorem Json.optional_putEntry_of_ne {α : Type} {key name : Text} (h : name ≠ key)
    (entries : List (Text × Json)) (v : Json) (default : α) (check : Json → Checked α) :
    optional (putEntry entries key v) name default check = optional entries name default check := by
  rw [optional, optional, putEntry_eq_putNamed, Session.lookup_putNamed_of_ne h]

namespace Config

variable {c : Config} {entries : List (Text × Json)}

theorem FieldsOf.selection_put (h : c.FieldsOf entries) (policy : RoleSelection) :
    ({ c with roleSelection := policy } : Config).FieldsOf
      (Json.putEntry entries "role_selection" (.str policy.text)) := by
  have hselection : (Json.putEntry entries "role_selection" (.str policy.text)).lookup
      ("role_selection" : Text) = some (.str policy.text) := by
    rw [Json.putEntry_eq_putNamed, Session.lookup_putNamed_self]
  exact {
    methods := (Json.optional_putEntry_of_ne (by decide) ..).trans h.methods
    defaultMethod := (Json.optional_putEntry_of_ne (by decide) ..).trans h.defaultMethod
    parameter := (Json.optional_putEntry_of_ne (by decide) ..).trans h.parameter
    property := (Json.optional_putEntry_of_ne (by decide) ..).trans h.property
    principal := (Json.optional_putEntry_of_ne (by decide) ..).trans h.principal
    selection := Json.optional_of_lookup hselection policy.checkChoice_text
    services := (Json.optional_putEntry_of_ne (by decide) ..).trans h.services
    logging := (Json.optional_putEntry_of_ne (by decide) ..).trans h.logging }

/-- In a document that is accepted the policy can be set. -/
theorem check_selection (valid : check (.obj entries) = .ok c) (policy : RoleSelection) :
    check (.obj (Json.putEntry entries "role_selection" (.str policy.text))) =
      .ok { c with roleSelection := policy } := by
  obtain ⟨_, ⟨⟩, hfields, hagree⟩ := check_eq_ok_iff.mp valid
  exact check_eq_ok_iff.mpr ⟨_, rfl, hfields.selection_put policy, hagree⟩

/-! ## The chain -/

theorem resolvers_selection (c : Config) (policy : RoleSelection) (registry : Registry)
    (services : ServiceDirectory) (store : Option AuthenticationStore) :
    ({ c with roleSelection := policy } : Config).resolvers registry services store =
      c.resolvers registry services store := by
  cases store with
  | none => rfl
  | some store =>
    simp only [resolvers, Resolver.mfaRole_selection _ services store policy c.roleSelection]

end Config

theorem Chain.ofConfig?_selection (c : Config) (policy : RoleSelection)
    (services : ServiceDirectory) (store : Option AuthenticationStore) :
    ofConfig? { c with roleSelection := policy } services store = ofConfig? c services store := by
  simp only [ofConfig?, Config.resolvers_selection]

/-! ## A session -/

namespace Session

/-- **The policy for role grants has no effect.** Whatever a definition grants to a user, all of it
is for one method, and each policy selects the first. Take a configuration that is accepted, set
the policy anew, and build a chain of each over one directory of services and whatever store there
is: the configuration is still accepted, and any run over the one chain is the run over the other,
with the same answers, contexts, targets, records and audit events. -/
theorem selection_immaterial {entries : List (Text × Json)} {c : Config}
    (valid : Config.check (.obj entries) = .ok c) (policy : RoleSelection) :
    let c' : Config := { c with roleSelection := policy }
    Config.check (.obj (Json.putEntry entries "role_selection" (.str policy.text))) = .ok c' ∧
      (∀ (rules : RoleRules) a d gs, (rules.evaluate a d).grants = .ok gs →
        (∀ g ∈ gs, ∀ g' ∈ gs, g.method = g'.method) ∧ policy.select? gs = gs.head?) ∧
      ∀ (services : ServiceDirectory) (s : Session) assemble',
        (∀ store, Chain.ofConfig? c services store = .ok (s.assemble store)) →
        (∀ store, Chain.ofConfig? c' services store = .ok (assemble' store)) →
        ∀ steps, ({ s with assemble := assemble' } : Session).run steps = s.run steps := by
  intro c'
  refine ⟨Config.check_selection valid policy, fun rules a d gs hgrants => ?_,
    fun services s assemble' built built' steps => ?_⟩
  · refine ⟨fun g hg g' hg' => ?_, RoleRules.select?_granted hgrants policy⟩
    rcases RoleRules.granted_cases hgrants with rfl | ⟨rule, -, hmethod⟩
    · cases hg
    · rw [hmethod g hg, hmethod g' hg']
  · have hassemble : assemble' = s.assemble := funext fun store => by
      have hchain := built' store
      rw [Chain.ofConfig?_selection, built store] at hchain
      exact (Except.ok.inj hchain).symm
    rw [hassemble]

/-- Two roles of the user match. Under the policy of highest rank, too, the first is recorded. -/
theorem selection_immaterial_auditor :
    let hr : ServiceDefinition := ⟨"hr", "https://hr/*", none,
      [("mfa_attribute_name", "groups"), ("mfa_attribute_pattern", "a.*"),
        ("authn_method", "webauthn")]⟩
    let entries : List (Text × Json) := [
      ("authentication_methods", .arr [.obj [("name", .str "sms"), ("rank", .int 1)],
        .obj [("name", .str "webauthn"), ("rank", .int 2)]]),
      ("role_selection", .str "first_match"),
      ("services", .arr [Config.serviceJson hr])]
    let c : Config := { methods := [⟨"sms", 1⟩, ⟨"webauthn", 2⟩], services := [hr] }
    let c' : Config := { c with roleSelection := .highestRank }
    let registry : Registry := ⟨c.methods, by decide⟩
    let chainOf (c : Config) (store : Option AuthenticationStore) : Chain :=
      ⟨c.resolvers registry (.ofList c.services) store, { registry := registry }⟩
    let ann : Principal :=
      ⟨"ann", [("groups", .arr [.str "clerk", .str "auditor", .str "admin"])]⟩
    let s : Session :=
      { assemble := chainOf c
        services := .ofList c.services
        store := .entries [("TGT-1", ⟨ann⟩)]
        sink := some .working
        contexts := [("r", ⟨[], [("ticketGrantingTicketId", .str "TGT-1")], "r1", false⟩)]
        targets := [("t", some { id := "https://hr/pay" })] }
    let s' : Session := { s with assemble := chainOf c' }
    Config.check (.obj entries) = .ok c ∧
      Config.check (.obj (Json.putEntry entries "role_selection" (.str "highest_rank"))) = .ok c' ∧
      s'.run [.resolve "r" "t" none] = s.run [.resolve "r" "t" none] ∧
      (s'.step (.resolve "r" "t" none)).2.records[1]?.map LogRecord.message =
        some "Role 'auditor' requires 'webauthn' for service 'hr'" := by
  intro hr entries c c' registry chainOf ann s s'
  have valid : Config.check (.obj entries) = .ok c := by cbv
  have hregistry : Registry.ofList? c.methods = .ok registry := dif_pos (by decide)
  have built : ∀ store, Chain.ofConfig? c (.ofList c.services) store = .ok (s.assemble store) := by
    intro store
    simp only [Chain.ofConfig?, hregistry]
    rfl
  have built' : ∀ store, Chain.ofConfig? c' (.ofList c.services) store = .ok (s'.assemble store) := by
    intro store
    have hregistry' : Registry.ofList? c'.methods = .ok registry := hregistry
    simp only [Chain.ofConfig?, hregistry']
    rfl
  obtain ⟨valid', -, hruns⟩ := selection_immaterial valid .highestRank
  refine ⟨valid, valid', hruns (.ofList c.services) s s'.assemble built built' _, ?_⟩
  cbv

end Session

end StepUp
