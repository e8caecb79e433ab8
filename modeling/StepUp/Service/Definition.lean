import StepUp.Glob
import StepUp.HostFailure
import StepUp.Validation.Checked

/-!
# Registered services

A service definition governs the services whose ids its glob describes. Its properties name the
method the service demands, or the role rule that decides about it.
-/

namespace StepUp

structure ServiceDefinition where
  id : Text
  /-- The glob for the ids of the services it governs. -/
  serviceId : Text
  name : Option Text
  properties : List (Text × Text)
deriving DecidableEq

namespace ServiceDefinition

/-- The property that names the attribute holding the roles of a user. -/
def roleAttributeProperty : Text := "mfa_attribute_name"

/-- The property that holds the pattern a role has to match. -/
def rolePatternProperty : Text := "mfa_attribute_pattern"

def property? (d : ServiceDefinition) (key : Text) : Option Text := d.properties.lookup key

def hasProperty (d : ServiceDefinition) (key : Text) : Bool := (d.property? key).isSome

/-- A service with either property of a role rule leaves its decision to the rule. -/
def defersToRoles (d : ServiceDefinition) : Bool :=
  d.hasProperty roleAttributeProperty || d.hasProperty rolePatternProperty

def governs (d : ServiceDefinition) (id : Text) : Bool := (Glob.parse d.serviceId).describes id

def check : Json → Checked ServiceDefinition :=
  Json.checkModel "ServiceDefinition" fun entries =>
    let id := Json.required entries "id" Json.checkNonempty
    let serviceId := Json.required entries "service_id" Json.checkNonempty
    let name := Json.optional entries "name" none Json.checkNullableText
    let properties := Json.optional entries "properties" [] (Json.checkObjectOf Json.checkText)
    Checked.ap (Checked.ap (Checked.ap (id.map ServiceDefinition.mk) serviceId) name) properties

end ServiceDefinition

/-- The host's way from a service id to the definition that governs it. -/
structure ServiceDirectory where
  find : Text → Except HostFailure (Option ServiceDefinition)

namespace ServiceDirectory

/-- The first definition that governs an id. -/
def firstGoverning (definitions : List ServiceDefinition) (id : Text) :
    Option ServiceDefinition :=
  definitions.find? (·.governs id)

def ofList (definitions : List ServiceDefinition) : ServiceDirectory :=
  ⟨fun id => .ok (firstGoverning definitions id)⟩

def failing (f : HostFailure) : ServiceDirectory := ⟨fun _ => .error f⟩

end ServiceDirectory

end StepUp
