import StepUp.Validation.Checked

/-!
# Audit events

One event tells how one resolution of one request ended.
-/

namespace StepUp

inductive Outcome where
  | noMfa
  | verified
  | rejected
  | suppressed
  | failed
deriving DecidableEq

namespace Outcome

def text : Outcome → Text
  | .noMfa => "no_mfa"
  | .verified => "verified"
  | .rejected => "rejected"
  | .suppressed => "suppressed"
  | .failed => "failed"

def all : List Outcome := [.noMfa, .verified, .rejected, .suppressed, .failed]

end Outcome

structure AuditEvent where
  outcome : Outcome
  requestId : Text
  serviceId : Option Text := none
  principalId : Option Text := none
  method : Option Text := none
  rank : Option Int := none
  source : Option Text := none
  error : Option Text := none
deriving DecidableEq

namespace AuditEvent

/-- The name that every event carries. -/
def eventName : Text := "mfa_resolution"

def fields (e : AuditEvent) : List (Text × Json) :=
  let all : List (Text × Json) :=
    [("event", .str eventName), ("outcome", .str e.outcome.text), ("request_id", .str e.requestId),
      ("service_id", Json.ofOption e.serviceId), ("principal_id", Json.ofOption e.principalId),
      ("method", Json.ofOption e.method), ("rank", (e.rank.map Json.int).getD .null),
      ("source", Json.ofOption e.source), ("error", Json.ofOption e.error)]
  all.filter fun p => !p.2.isNull

def toJson (e : AuditEvent) : Json := .obj e.fields

def checkFields (entries : List (Text × Json)) : Checked AuditEvent :=
  let text (name : Text) := Json.optional entries name none Json.checkNullableText
  let event := Json.optional entries "event" () (Json.checkChoice [(eventName, ())])
  let outcomes := Outcome.all.map fun o => (o.text, o)
  let outcome := Json.required entries "outcome" (Json.checkChoice outcomes)
  let requestId := Json.required entries "request_id" Json.checkText
  let rank := Json.optional entries "rank" none Json.checkNullableInteger
  let make := event.map fun _ => AuditEvent.mk
  let make := Checked.ap (Checked.ap make outcome) requestId
  let make := Checked.ap (Checked.ap make (text "service_id")) (text "principal_id")
  let make := Checked.ap (Checked.ap make (text "method")) rank
  Checked.ap (Checked.ap make (text "source")) (text "error")

def check : Json → Checked AuditEvent := Json.checkModel "ResolutionEvent" checkFields

end AuditEvent

end StepUp
