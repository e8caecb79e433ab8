import StepUp.Json.Value
import StepUp.Text.Quoted

/-!
# Rejections

A method that is not supported is reported to the host once per request, with what the host needs
to show an error page.
-/

namespace StepUp

structure Rejection where
  method : Option Text
  serviceId : Option Text
deriving DecidableEq

namespace Rejection

def code : Text := "UNRECOGNIZED_AUTHENTICATION_METHOD"

/-- The text of a name in a message, where there may be none. -/
def shown (name : Option Text) : Text := name.getD "None"

def quotedOrNone (name : Option Text) : Text :=
  match name with
  | some t => Text.quoted t
  | none => "None"

def message (r : Rejection) : Text :=
  "Authentication method '" ++ shown r.method ++ "' is not supported"

/-- The error page's model; the service is left out where none is known. -/
def view (r : Rejection) : Json :=
  .obj ([(("code" : Text), .str code), ("message", .str r.message),
      ("method", Json.ofOption r.method)]
    ++ (match r.serviceId with
      | some id => [(("service_id" : Text), .str id)]
      | none => []))

def describe (r : Rejection) : Text :=
  "UnrecognizedAuthenticationMethodError(method=" ++ quotedOrNone r.method ++ ", service_id="
    ++ quotedOrNone r.serviceId ++ ")"

end Rejection

end StepUp
