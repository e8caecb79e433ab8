import StepUp.Log.Record
import StepUp.Method.Registry
import StepUp.Rejection
import StepUp.Target

/-!
# Verification of candidates

A candidate has to be supported. The first unsupported candidate of a request is rejected and the
request marked; the error page leads back here with the same parameters, so later ones are let
pass without a method.
-/

namespace StepUp

inductive Verdict where
  | supported
  | rejected (r : Rejection)
  | suppressed
deriving DecidableEq

/-- Which candidates a verifier accepts: those of its registry, or any. -/
inductive Acceptance where
  | registered
  | everything
deriving DecidableEq

structure Verifier where
  registry : Registry
  acceptance : Acceptance := .registered

structure Verification where
  verdict : Verdict
  context : RequestContext
  records : List LogRecord

namespace Verifier

def accepts (v : Verifier) (method : Option Text) : Bool :=
  match v.acceptance with
  | .registered => v.registry.supports method
  | .everything => true

def unsupportedRecord (r : Rejection) (c : RequestContext) : LogRecord :=
  { level := .debug
    event := "unsupported_authentication_method"
    message := r.message
    details := [("method", Json.ofOption r.method), ("service_id", Json.ofOption r.serviceId)]
    requestId := some c.requestId }

def suppressedRecord (r : Rejection) (c : RequestContext) : LogRecord :=
  { level := .debug
    event := "unsupported_authentication_method_suppressed"
    message := "Rejection of '" ++ Rejection.shown r.method
      ++ "' already reported for this request"
    requestId := some c.requestId }

def verify (v : Verifier) (method : Option Text) (target : TargetService)
    (c : RequestContext) : Verification :=
  if v.accepts method then ⟨.supported, c, []⟩
  else
    let r : Rejection := ⟨method, some target.id⟩
    match c.mark with
    | (true, marked) => ⟨.rejected r, marked, [unsupportedRecord r c]⟩
    | (false, c) => ⟨.suppressed, c, [unsupportedRecord r c, suppressedRecord r c]⟩

end Verifier

end StepUp
