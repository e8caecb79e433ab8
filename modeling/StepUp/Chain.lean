import StepUp.Audit.Event
import StepUp.Resolver
import StepUp.Verifier

/-!
# Resolution

A chain asks its resolvers in order. The first one that fails, or that proposes a text which is
not blank, settles the matter: a failure fails the resolution, a candidate goes to the verifier.
A supported candidate becomes the target's requirement, unless the target already has a different
one. Each resolution is told by one audit event and one record of the same content.
-/

namespace StepUp

/-- How a resolution ends without an answer. -/
inductive ResolutionFault where
  | rejected (r : Rejection)
  | failed (reason : Text)
deriving DecidableEq

namespace ResolutionFault

def message : ResolutionFault → Text
  | .rejected r => r.message
  | .failed reason => reason

/-- The exit code of a process that cannot trust its resolutions. -/
def exitCode : Nat := 11

def category : Text := "resolution_failure"

end ResolutionFault

structure Resolution where
  answer : Except ResolutionFault (Option Requirement)
  context : RequestContext
  target : Option TargetService
  records : List LogRecord
  event : Option AuditEvent

/-- What the resolvers came to. -/
inductive Finding where
  | nothing
  | candidate (method : Text) (source : Source)
  | failure (resolver : Text) (source : Source) (f : HostFailure)

structure Chain where
  resolvers : List Resolver
  verifier : Verifier

namespace Chain

/-- Ask the resolvers in order until one fails or proposes something that is not blank. -/
def find (a : Option Authentication) (t : TargetService) (c : RequestContext) :
    List Resolver → List LogRecord × Finding
  | [] => ([], .nothing)
  | r :: rest =>
    let proposal := r.propose a t c
    match proposal.outcome with
    | .error f => (proposal.records, .failure r.name r.source f)
    | .ok candidate =>
      match candidate.filter fun m => !m.isBlank with
      | some m => (proposal.records, .candidate m r.source)
      | none =>
        let (records, finding) := find a t c rest
        (proposal.records ++ records, finding)

def failureReason (resolver : Text) (f : HostFailure) : Text :=
  "Method resolver '" ++ resolver ++ "' failed unexpectedly: " ++ f.describe
    ++ ". Cannot determine required authentication method."

def missingReason (method : Text) : Text :=
  "Verified method '" ++ method ++ "' is missing from the registry"

def conflictReason (t : TargetService) (existing required : Requirement) : Text :=
  "Service '" ++ t.id ++ "' already requires '" ++ existing.method.name ++ "' ("
    ++ existing.source.text ++ "); refusing to replace it with '" ++ required.method.name ++ "' ("
    ++ required.source.text ++ ")"

/-- The record that goes with an event. An empty method name is left out. -/
def outcomeRecord (e : AuditEvent) : LogRecord :=
  { level := .debug
    event := AuditEvent.eventName
    message := "Resolution outcome '" ++ e.outcome.text ++ "'"
      ++ (match e.method.filter fun m => !m.isEmpty with
        | some m => " for method '" ++ m ++ "'"
        | none => [])
      ++ (match e.source with
        | some s => " from " ++ s
        | none => [])
    requestId := some e.requestId }

/-- The event of a resolution, of which outcome and candidate are to be filled in. -/
def eventFor (a : Option Authentication) (t : Option TargetService) (c : RequestContext)
    (outcome : Outcome) : AuditEvent :=
  { outcome := outcome
    requestId := c.requestId
    serviceId := t.map TargetService.id
    principalId := a.map fun a => a.principal.id }

/-- A resolution that is told by an event. -/
def told (e : AuditEvent) (answer : Except ResolutionFault (Option Requirement))
    (c : RequestContext) (t : Option TargetService) (records : List LogRecord) : Resolution :=
  ⟨answer, c, t, records ++ [outcomeRecord e], some e⟩

/-- Make a verified method the target's requirement. -/
def require (e : Outcome → AuditEvent) (required : Requirement) (c : RequestContext)
    (t : TargetService) (records : List LogRecord) : Resolution :=
  let event (o : Outcome) : AuditEvent :=
    { e o with method := some required.method.name, source := some required.source.text }
  let verified := { event .verified with rank := some required.method.rank }
  match t.requirement with
  | none =>
    told verified (.ok (some required)) c (some { t with requirement := some required }) records
  | some existing =>
    if existing = required then told verified (.ok (some existing)) c (some t) records
    else
      let reason := conflictReason t existing required
      told { event .failed with error := some reason } (.error (.failed reason)) c (some t) records

/-- What becomes of a candidate. -/
def judge (chain : Chain) (e : Outcome → AuditEvent) (method : Text) (source : Source)
    (c : RequestContext) (t : TargetService) (records : List LogRecord) : Resolution :=
  let verification := chain.verifier.verify (some method) t c
  let records := records ++ verification.records
  let event (o : Outcome) : AuditEvent :=
    { e o with method := some method, source := some source.text }
  match verification.verdict with
  | .rejected r =>
    told (event .rejected) (.error (.rejected r)) verification.context (some t) records
  | .suppressed => told (event .suppressed) (.ok none) verification.context (some t) records
  | .supported =>
    match chain.verifier.registry.get? method with
    | none =>
      ⟨.error (.failed (missingReason method)), verification.context, some t, records, none⟩
    | some m => require e ⟨m, source⟩ verification.context t records

/-- The method that a request requires, if any. -/
def resolve (chain : Chain) (a : Option Authentication) (target : Option TargetService)
    (c : RequestContext) : Resolution :=
  let event := eventFor a target c
  match target with
  | none => told (event .noMfa) (.ok none) c none []
  | some t =>
    match find a t c chain.resolvers with
    | (records, .nothing) => told (event .noMfa) (.ok none) c (some t) records
    | (records, .failure name source f) =>
      told { event .failed with source := some source.text, error := some f.describe }
        (.error (.failed (failureReason name f))) c (some t) records
    | (records, .candidate method source) => chain.judge event method source c t records

end Chain

end StepUp
