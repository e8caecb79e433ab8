import StepUp.Requirement
import StepUp.Request

/-!
# Target services

The service that a request tries to reach. It is found from the request's parameters by the
conventions of the login protocols, and takes at most one requirement.
-/

namespace StepUp

structure TargetService where
  id : Text
  artifactId : Option Text := none
  requirement : Option Requirement := none
deriving DecidableEq

/-- A requirement was attached to a target that has one. -/
structure AttachFault where
  serviceId : Text
  existing : Requirement
deriving DecidableEq

namespace AttachFault

def message (f : AttachFault) : Text :=
  "Service '" ++ f.serviceId ++ "' already requires '" ++ f.existing.method.name
    ++ "'; only one MFA requirement may be attached per request"

end AttachFault

namespace TargetService

def attach? (t : TargetService) (r : Requirement) : Except AttachFault TargetService :=
  match t.requirement with
  | none => .ok { t with requirement := some r }
  | some existing => .error ⟨t.id, existing⟩

def requiresMfa (t : TargetService) : Bool := t.requirement.isSome

end TargetService

/-- The parameters by which a login protocol names the target and its artifact. -/
structure ProtocolArguments where
  protocol : Text
  serviceParameter : Text
  artifactParameter : Text

namespace ProtocolArguments

def cas : ProtocolArguments := ⟨"cas", "service", "ticket"⟩

def saml : ProtocolArguments := ⟨"saml", "TARGET", "SAMLart"⟩

def standard : List ProtocolArguments := [cas, saml]

end ProtocolArguments

namespace RequestContext

/-- The target that one protocol names. -/
def targetBy? (c : RequestContext) (p : ProtocolArguments) : Option TargetService :=
  (c.parameter? p.serviceParameter).map fun id =>
    { id := id, artifactId := c.parameter? p.artifactParameter }

/-- The target that the first protocol with a service parameter names. -/
def target? (c : RequestContext) (protocols : List ProtocolArguments) : Option TargetService :=
  protocols.findSome? c.targetBy?

end RequestContext

end StepUp
