import StepUp.Authentication
import StepUp.Log.Record
import StepUp.Method.Registry
import StepUp.Pattern.Matcher
import StepUp.Pattern.Parser
import StepUp.Service.Definition

/-!
# Role rules

A service may demand a method of the users in certain roles: its definition names the attribute
that holds the roles, a pattern for them and the method. Every role that the pattern describes as
a whole grants the method.
-/

namespace StepUp

/-- A method and the role that grants it. -/
structure RoleGrant where
  method : Method
  role : Text
deriving DecidableEq

/-- The outcome of a rule. A pattern that is refused for another reason than its form is a
failure. -/
structure RoleFinding where
  records : List LogRecord := []
  grants : Except HostFailure (List RoleGrant)

structure RoleRules where
  registry : Registry
  methodProperty : Text

namespace RoleRules

/-- A property that is present and not empty. -/
def property? (d : ServiceDefinition) (key : Text) : Option Text :=
  (d.property? key).filter fun t => !t.isEmpty

def incompleteRecord (d : ServiceDefinition) : LogRecord :=
  { level := .debug
    event := "mfa_role_rule_incomplete"
    message := "Service '" ++ d.id ++ "' has an incomplete role rule" }

def unsupportedRecord (d : ServiceDefinition) (method : Text) : LogRecord :=
  { level := .info
    event := "mfa_role_method_unsupported"
    message := "Service '" ++ d.id ++ "' role rule names unsupported method '" ++ method ++ "'" }

def invalidPatternRecord (d : ServiceDefinition) (pattern reason : Text) : LogRecord :=
  { level := .warning
    event := "mfa_role_pattern_invalid"
    message := "Service '" ++ d.id ++ "' has invalid role pattern '" ++ pattern ++ "': "
      ++ reason }

/-- The failure that a refused pattern amounts to, unless its form is at fault. -/
def hostFailure? (pattern : Text) (r : Pattern.Refusal) : Option HostFailure :=
  match r with
  | .malformed _ _ => none
  | .hugeBound => some ⟨"OverflowError", r.message pattern⟩
  | .oversizedBound _ => some ⟨"ValueError", r.message pattern⟩
  | .flagConflict => some ⟨"ValueError", r.message pattern⟩

/-- The roles among the values of an attribute that a pattern describes. -/
def grantsOf (p : Pattern) (m : Method) (principal : Principal) (attributeName : Text) :
    List RoleGrant :=
  ((principal.attributeValues attributeName).filter p.describes).map (⟨m, ·⟩)

/-- What the rule of a definition grants to a user. -/
def evaluate (rules : RoleRules) (a : Authentication) (d : ServiceDefinition) : RoleFinding :=
  match property? d ServiceDefinition.roleAttributeProperty,
      property? d ServiceDefinition.rolePatternProperty, property? d rules.methodProperty with
  | some attributeName, some pattern, some methodName =>
    match rules.registry.get? methodName with
    | none => ⟨[unsupportedRecord d methodName], .ok []⟩
    | some m =>
      match Pattern.compile pattern with
      | .ok p => ⟨[], .ok (grantsOf p m a.principal attributeName)⟩
      | .error r =>
        match hostFailure? pattern r with
        | some f => ⟨[], .error f⟩
        | none => ⟨[invalidPatternRecord d pattern (r.message pattern)], .ok []⟩
  | _, _, _ => ⟨[incompleteRecord d], .ok []⟩

end RoleRules

end StepUp
