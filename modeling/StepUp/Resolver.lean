import StepUp.Authentication
import StepUp.Log.Record
import StepUp.Method.Registry
import StepUp.Service.Definition
import StepUp.Target

/-!
# Resolvers

A resolver looks at one source of information and proposes a method by name, abstains, or fails.
It does not judge whether the method is supported. The resolvers of this module look at the
request's parameters, at the service's definition and at the attributes of the user.
-/

namespace StepUp

/-- What a resolver did: the records it wrote, and its proposal if it did not fail. -/
structure Proposal where
  records : List LogRecord := []
  outcome : Except HostFailure (Option Text)

namespace Proposal

def abstain (records : List LogRecord := []) : Proposal := ⟨records, .ok none⟩

def fail (f : HostFailure) : Proposal := ⟨[], .error f⟩

end Proposal

structure Resolver where
  name : Text
  source : Source
  propose : Option Authentication → TargetService → RequestContext → Proposal

namespace Resolver

def debug (c : RequestContext) (event message : Text) : LogRecord :=
  { level := .debug, event := event, message := message, requestId := some c.requestId }

def info (c : RequestContext) (event message : Text) : LogRecord :=
  { level := .info, event := event, message := message, requestId := some c.requestId }

/-- Always the same candidate. -/
def fixed (source : Source) (candidate : Option Text) : Resolver :=
  { name := "FixedResolver"
    source := source
    propose := fun _ _ _ => ⟨[], .ok candidate⟩ }

def failing (source : Source) (f : HostFailure) : Resolver :=
  { name := "FailingResolver"
    source := source
    propose := fun _ _ _ => .fail f }

/-- The method that the client asks for by a parameter. -/
def requestParameter (parameter : Text) : Resolver :=
  { name := "RequestParameterMethodResolver"
    source := .requestParameter
    propose := fun _ _ c =>
      match c.parameter? parameter with
      | none => .abstain
      | some method =>
        ⟨[debug c "method_from_request_parameter"
          ("Request parameter '" ++ parameter ++ "' asks for '" ++ method ++ "'")],
          .ok (some method)⟩ }

/-- A blank default is no default; another one loses the white space around it. -/
def normalizedDefault (method : Option Text) : Option Text :=
  (method.map Text.strip).filter fun t => !t.isEmpty

/-- The method that a definition demands by its property, or else the default. -/
def ofDefinition (methodProperty : Text) (default : Option Text) (d : ServiceDefinition)
    (c : RequestContext) : Proposal :=
  if d.defersToRoles then
    .abstain [debug c "service_defers_to_mfa_roles"
      ("Service '" ++ d.id ++ "' declares role rules, deferring")]
  else
    match (d.property? methodProperty).filter fun t => !t.isBlank with
    | some method => ⟨[], .ok (some method)⟩
    | none =>
      match default with
      | none => .abstain
      | some method =>
        ⟨[debug c "service_default_method"
          ("Service '" ++ d.id ++ "' declares no method, using default '" ++ method ++ "'")],
          .ok (some method)⟩

/-- The method that the definition governing the target demands. -/
def registeredService (services : ServiceDirectory) (methodProperty : Text)
    (default : Option Text) : Resolver :=
  { name := "RegisteredServiceMethodResolver"
    source := .registeredService
    propose := fun _ target c =>
      match services.find target.id with
      | .error f => .fail f
      | .ok none =>
        .abstain [debug c "service_not_registered"
          ("No registered service for '" ++ target.id ++ "'")]
      | .ok (some d) => ofDefinition methodProperty (normalizedDefault default) d c }

/-- The first value of an attribute of the user, if it is a supported method. -/
def principalAttribute (registry : Registry) (attributeName : Text) : Resolver :=
  { name := "PrincipalAttributeMethodResolver"
    source := .principalAttribute
    propose := fun authentication _ c =>
      match authentication with
      | none => .abstain
      | some a =>
        match a.principal.attributeValues attributeName with
        | [] => .abstain
        | method :: _ =>
          let found := debug c "method_from_principal_attribute"
            ("Found attribute '" ++ attributeName ++ "' = '" ++ method ++ "' for principal '"
              ++ a.principal.id ++ "'")
          if registry.contains method then ⟨[found], .ok (some method)⟩
          else
            .abstain [found, info c "principal_method_unsupported"
              ("Attribute '" ++ attributeName ++ "' value '" ++ method ++ "' of principal '"
                ++ a.principal.id ++ "' is not a supported method, ignoring")] }

end Resolver

end StepUp
