import StepUp.Resolver
import StepUp.Role.Selection

/-!
# The role resolver

Proposes the method that the role rule of the target's definition grants to the user who logged
in with the ticket of the flow.
-/

namespace StepUp.Resolver

/-- The proposal that follows from a finding about a definition. -/
def ofFinding (selection : RoleSelection) (d : ServiceDefinition) (c : RequestContext)
    (finding : RoleFinding) : Proposal :=
  match finding.grants with
  | .error f => ⟨finding.records, .error f⟩
  | .ok grants =>
    match selection.select? grants with
    | none =>
      .abstain (finding.records ++ [debug c "mfa_role_no_match"
        ("No role rule of service '" ++ d.id ++ "' matched")])
    | some g =>
      ⟨finding.records ++ [info c "mfa_role_matched"
        ("Role '" ++ g.role ++ "' requires '" ++ g.method.name ++ "' for service '" ++ d.id
          ++ "'")], .ok (some g.method.name)⟩

def mfaRole (rules : RoleRules) (services : ServiceDirectory) (store : AuthenticationStore)
    (selection : RoleSelection) : Resolver :=
  { name := "MfaRoleResolver"
    source := .mfaRole
    propose := fun _ target c =>
      match c.ticket? with
      | none =>
        .abstain [debug c "mfa_role_no_ticket"
          "No ticket-granting ticket in flow scope, skipping role rules"]
      | some ticket =>
        match store.find ticket with
        | .error f => .fail f
        | .ok none =>
          .abstain [debug c "mfa_role_no_authentication"
            "No active authentication for ticket, skipping role rules"]
        | .ok (some active) =>
          match services.find target.id with
          | .error f => .fail f
          | .ok none => .abstain
          | .ok (some d) => ofFinding selection d c (rules.evaluate active d) }

end StepUp.Resolver
