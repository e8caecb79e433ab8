import StepUp.Chain
import StepUp.Role.Resolver

/-!
# Configuration

What an operator sets: the supported methods, the names under which a required method is looked
up, the registered services and the logs. `Config.check` accepts a document when each field is
sound and, only then asked, the fields agree with each other.
-/

namespace StepUp

structure LoggingConfig where
  /-- Where the log files go; without it there are none. -/
  logDir : Option Text := none
  logLevel : Level := .info

structure Config where
  methods : List Method := []
  /-- Required by registered services that name no method. -/
  defaultMethod : Option Text := none
  methodParameter : Text := "authn_method"
  serviceMethodProperty : Text := "authn_method"
  principalMethodAttribute : Option Text := some "authn_method"
  roleSelection : RoleSelection := .firstMatch
  services : List ServiceDefinition := []
  logging : LoggingConfig := {}

namespace Method

def checkName (v : Json) : Checked Text := do
  let name ← Json.checkNonempty v
  if name.isBlank then .fail (.rejected "Method name cannot be empty or whitespace-only")
  else return name

def check : Json → Checked Method :=
  Json.checkModel "AuthenticationMethodConfig" fun entries =>
    Checked.ap ((Json.required entries "name" checkName).map Method.mk)
      (Json.required entries "rank" (Json.checkAtLeast 0))

end Method

namespace LoggingConfig

/-- The levels that a configuration may name. -/
def levels : List Level := [.debug, .info, .warning, .error]

def check : Json → Checked LoggingConfig :=
  Json.checkModel "LoggingConfig" fun entries =>
    Checked.ap
      ((Json.optional entries "log_dir" none Json.checkNullableText).map LoggingConfig.mk)
      (Json.optional entries "log_level" .info
        (Json.checkChoice (levels.map fun l => (l.text, l))))

def toJson (l : LoggingConfig) : Json :=
  .obj [("log_dir", Json.ofOption l.logDir), ("log_level", .str l.logLevel.text)]

end LoggingConfig

namespace Config

/-- The configuration of an empty document. -/
def standard : Config := {}

def methodNames (c : Config) : List Text := c.methods.map Method.name

def serviceIds (c : Config) : List Text := c.services.map ServiceDefinition.id

/-- The texts that occur more than once, in order, each once. -/
def repeated (ts : List Text) : List Text :=
  ((ts.filter fun t => 1 < ts.count t).eraseDups).mergeSort Text.le

def quotedList (ts : List Text) : Text := (Json.arr (ts.map Json.str)).quoted

/-- The first way in which the fields contradict each other. -/
def contradiction? (c : Config) : Option Problem :=
  if !(repeated c.methodNames).isEmpty then
    some (.rejected ("Duplicate authentication method names: "
      ++ quotedList (repeated c.methodNames)))
  else
    match c.defaultMethod.filter fun m => !c.methodNames.contains m with
    | some m =>
      some (.rejected ("Default authentication method '" ++ m
        ++ "' is not a configured authentication method"))
    | none =>
      if !(repeated c.serviceIds).isEmpty then
        some (.rejected ("Duplicate service definition ids: " ++ quotedList (repeated c.serviceIds)))
      else none

def checkFields (entries : List (Text × Json)) : Checked Config :=
  let methods := Json.optional entries "authentication_methods" [] (Json.checkListOf Method.check)
  let defaultMethod :=
    Json.optional entries "default_authentication_method" none Json.checkNullableText
  let parameter :=
    Json.optional entries "authn_method_parameter" standard.methodParameter Json.checkNonempty
  let property :=
    Json.optional entries "service_method_property" standard.serviceMethodProperty
      Json.checkNonempty
  let principal :=
    Json.optional entries "principal_method_attribute" standard.principalMethodAttribute
      Json.checkNullableText
  let selection := Json.optional entries "role_selection" .firstMatch
    (Json.checkChoice (RoleSelection.all.map fun s => (s.text, s)))
  let services := Json.optional entries "services" [] (Json.checkListOf ServiceDefinition.check)
  let logging := Json.optional entries "logging" {} LoggingConfig.check
  let make := Checked.ap (methods.map Config.mk) defaultMethod
  let make := Checked.ap (Checked.ap make parameter) property
  let make := Checked.ap (Checked.ap make principal) selection
  Checked.ap (Checked.ap make services) logging

def check : Json → Checked Config :=
  Json.checkModel "MfaConfig" fun entries => do
    let c ← checkFields entries
    match c.contradiction? with
    | some p => .fail p
    | none => return c

def methodJson (m : Method) : Json := .obj [("name", .str m.name), ("rank", .int m.rank)]

def serviceJson (d : ServiceDefinition) : Json :=
  .obj [("id", .str d.id), ("service_id", .str d.serviceId), ("name", Json.ofOption d.name),
    ("properties", .obj (d.properties.map fun p => (p.1, .str p.2)))]

/-- The document with every field written out. -/
def toJson (c : Config) : Json :=
  .obj [("authentication_methods", .arr (c.methods.map methodJson)),
    ("default_authentication_method", Json.ofOption c.defaultMethod),
    ("authn_method_parameter", .str c.methodParameter),
    ("service_method_property", .str c.serviceMethodProperty),
    ("principal_method_attribute", Json.ofOption c.principalMethodAttribute),
    ("role_selection", .str c.roleSelection.text),
    ("services", .arr (c.services.map serviceJson)),
    ("logging", c.logging.toJson)]

/-- The resolvers in their order of precedence. The role resolver needs a store, the one for
attributes of the user the name of an attribute. -/
def resolvers (c : Config) (registry : Registry) (services : ServiceDirectory)
    (store : Option AuthenticationStore) : List Resolver :=
  [.requestParameter c.methodParameter,
    .registeredService services c.serviceMethodProperty c.defaultMethod]
  ++ (match store with
    | some store =>
      [.mfaRole ⟨registry, c.serviceMethodProperty⟩ services store c.roleSelection]
    | none => [])
  ++ (match c.principalMethodAttribute.filter fun name => !name.isEmpty with
    | some name => [.principalAttribute registry name]
    | none => [])

end Config

/-- The chain that a configuration describes. -/
def Chain.ofConfig? (c : Config) (services : ServiceDirectory)
    (store : Option AuthenticationStore) : Except ConfigurationFault Chain := do
  let registry ← Registry.ofList? c.methods
  return ⟨c.resolvers registry services store, { registry := registry }⟩

end StepUp
