import StepUp.Method.Basic

/-!
# Requirements

A requirement says which method a request needs and where that was found.
-/

namespace StepUp

inductive Source where
  | requestParameter
  | registeredService
  | principalAttribute
  | mfaRole
deriving DecidableEq

namespace Source

def text : Source → Text
  | .requestParameter => "request_parameter"
  | .registeredService => "registered_service"
  | .principalAttribute => "principal_attribute"
  | .mfaRole => "mfa_role"

def all : List Source := [.requestParameter, .registeredService, .principalAttribute, .mfaRole]

def ofText? (t : Text) : Option Source := all.find? (·.text == t)

end Source

structure Requirement where
  method : Method
  source : Source
deriving DecidableEq

end StepUp
