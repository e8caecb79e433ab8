import StepUp.Json.Display
import StepUp.Text.Blank

/-!
# Requests

What a decision sees of the request at hand: its parameters, what the login flow holds for it,
and the marker that says that an unsupported method was already reported for it. The marker is the
only thing a decision writes.
-/

namespace StepUp

structure RequestContext where
  parameters : List (Text × Json)
  flowScope : List (Text × Json)
  requestId : Text
  marker : Bool := false

namespace RequestContext

/-- The flow's key for the ticket of the login. -/
def ticketKey : Text := "ticketGrantingTicketId"

/-- An identifier from a number below `2 ^ 122`: hexadecimal digits in five groups, with the marks
of a random identifier. -/
def idOfNumber (n : Nat) : Text :=
  let bits (start count : Nat) : Nat := n / Nat.pow 2 start % Nat.pow 2 count
  Text.join "-"
    [Text.hex 8 (bits 90 32), Text.hex 4 (bits 74 16), Text.hex 4 (0x4000 + bits 62 12),
      Text.hex 4 (0x8000 + bits 48 14), Text.hex 12 (bits 0 48)]

/-- The value of a parameter as a text, unless it is absent, null or blank. -/
def parameter? (c : RequestContext) (name : Text) : Option Text :=
  match c.parameters.lookup name with
  | none => none
  | some .null => none
  | some v => if v.display.isBlank then none else some v.display

/-- The ticket of the login, which has to be a text and not blank. -/
def ticket? (c : RequestContext) : Option Text :=
  match c.flowScope.lookup ticketKey with
  | some (.str t) => if t.isBlank then none else some t
  | _ => none

/-- Set the marker; true if it was not set before. -/
def mark (c : RequestContext) : Bool × RequestContext :=
  if c.marker then (false, c) else (true, { c with marker := true })

def setParameter (c : RequestContext) (name : Text) (value : Json) : RequestContext :=
  { c with parameters := Json.putEntry c.parameters name value }

def setFlow (c : RequestContext) (name : Text) (value : Json) : RequestContext :=
  { c with flowScope := Json.putEntry c.flowScope name value }

end RequestContext

end StepUp
