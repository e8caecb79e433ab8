import StepUp.Authentication
import StepUp.CommandLine.Usage
import StepUp.Config.Basic

/-!
# Dry runs

A dry run resolves a login request that is made up from options: which service it is for, which
method it asks for, and who has logged in with which attributes. The made-up login is both passed
on and stored behind the ticket of the login flow.
-/

namespace StepUp

structure DryRun where
  service : Option Text := none
  method : Option Text := none
  principal : Option Text := none
  /-- Pairs of a name and a value with `=` between them. -/
  attributes : List Text := []

namespace DryRun

/-- The ticket of the made-up login. -/
def ticket : Text := "TGT-dry-run"

/-- Add a value to those of a name. -/
def addValue (name value : Text) : List (Text × List Text) → List (Text × List Text)
  | [] => [(name, [value])]
  | (n, values) :: rest =>
    if n = name then (n, values ++ [value]) :: rest else (n, values) :: addValue name value rest

/-- Split a pair at its first `=`; the name must not be empty. -/
def splitPair (pair : Text) : Except UsageFault (Text × Text) :=
  match Text.splitAtFirst (CodePoint.ofChar '=') pair with
  | some (c :: name, value) => .ok (c :: name, value)
  | _ => .error (.malformedAttribute pair)

/-- The values of each name in the order of the arguments. -/
def groupPairs (pairs : List Text) : Except UsageFault (List (Text × List Text)) := do
  let split ← pairs.mapM splitPair
  return split.foldl (fun groups p => addValue p.1 p.2 groups) []

/-- Who has logged in, if anyone. -/
def authentication? (d : DryRun) : Except UsageFault (Option Authentication) :=
  match d.principal with
  | none => if d.attributes.isEmpty then .ok none else .error .attributesWithoutPrincipal
  | some id => do
    let groups ← groupPairs d.attributes
    let attributes := groups.map fun g => (g.1, Json.arr (g.2.map Json.str))
    return some ⟨⟨id, attributes⟩⟩

def store (a : Option Authentication) : AuthenticationStore :=
  .ofList (a.toList.map fun a => (ticket, a))

/-- The parameter for an option that was given and is not empty. -/
def parameter (name : Text) (value : Option Text) (ps : List (Text × Json)) :
    List (Text × Json) :=
  match value.filter fun v => !v.isEmpty with
  | some v => Json.putEntry ps name (.str v)
  | none => ps

/-- The login request. -/
def request (d : DryRun) (c : Config) (a : Option Authentication) (requestId : Text) :
    RequestContext :=
  { parameters := parameter c.methodParameter d.method
      (parameter ProtocolArguments.cas.serviceParameter d.service [])
    flowScope := if a.isSome then [(RequestContext.ticketKey, .str ticket)] else []
    requestId := requestId }

/-- What the configured chain decides about the request. -/
def resolution (d : DryRun) (c : Config) (chain : Chain) (a : Option Authentication)
    (requestId : Text) : Resolution :=
  let request := d.request c a requestId
  chain.resolve a (request.target? ProtocolArguments.standard) request

end DryRun

end StepUp
