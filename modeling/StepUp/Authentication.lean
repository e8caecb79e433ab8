import StepUp.HostFailure
import StepUp.Validation.Checked

/-!
# Authentications

Who has logged in. An authentication store finds the authentication behind a ticket; a store of
the host may fail to.
-/

namespace StepUp

structure Principal where
  id : Text
  attributes : List (Text × Json)

namespace Principal

/-- A single value stands for a list of one. -/
def attributeEntries (p : Principal) (name : Text) : List Json :=
  match p.attributes.lookup name with
  | none => []
  | some .null => []
  | some (.arr items) => items
  | some v => [v]

/-- The entries of an attribute that are texts and not blank. -/
def attributeValues (p : Principal) (name : Text) : List Text :=
  ((p.attributeEntries name).filterMap Json.text?).filter fun t => !t.isBlank

def check : Json → Checked Principal :=
  Json.checkModel "Principal" fun entries =>
    Checked.ap ((Json.required entries "id" Json.checkText).map Principal.mk)
      (Json.optional entries "attributes" [] Json.checkObject)

end Principal

structure Authentication where
  principal : Principal

namespace Authentication

def check : Json → Checked Authentication :=
  Json.checkModel "Authentication" fun entries =>
    (Json.required entries "principal" Principal.check).map Authentication.mk

end Authentication

structure AuthenticationStore where
  find : Text → Except HostFailure (Option Authentication)

namespace AuthenticationStore

def ofList (entries : List (Text × Authentication)) : AuthenticationStore :=
  ⟨fun ticket => .ok (entries.lookup ticket)⟩

def failing (f : HostFailure) : AuthenticationStore := ⟨fun _ => .error f⟩

end AuthenticationStore

end StepUp
