import StepUp.Method.Basic

/-!
# The registry of supported methods

The methods a deployment supports, in the order of their registration, each under a name of its
own. An empty registry is a registry: nothing is supported.
-/

namespace StepUp

structure Registry where
  methods : List Method
  distinct : (methods.map Method.name).Nodup

/-- What is wrong with the methods of a configuration. -/
inductive ConfigurationFault where
  | duplicateMethod (name : Text)
deriving DecidableEq

namespace ConfigurationFault

def message : ConfigurationFault → Text
  | .duplicateMethod name => "Duplicate authentication method name: '" ++ name ++ "'"

/-- The exit code of a process that refuses to start. -/
def exitCode : Nat := 16

def category : Text := "configuration_failure"

end ConfigurationFault

namespace Registry

/-- The first name that occurred before, given the names that did. -/
def firstRepeated? (seen : List Text) : List Text → Option Text
  | [] => none
  | n :: rest => if n ∈ seen then some n else firstRepeated? (n :: seen) rest

def ofList? (methods : List Method) : Except ConfigurationFault Registry :=
  if h : (methods.map Method.name).Nodup then .ok ⟨methods, h⟩
  else .error (.duplicateMethod ((firstRepeated? [] (methods.map Method.name)).getD []))

def empty : Registry := ⟨[], by simp⟩

def names (r : Registry) : List Text := r.methods.map Method.name

def size (r : Registry) : Nat := r.methods.length

def get? (r : Registry) (name : Text) : Option Method := r.methods.find? (·.name == name)

def contains (r : Registry) (name : Text) : Bool := r.names.contains name

/-- No name at all is never supported. -/
def supports (r : Registry) : Option Text → Bool
  | none => false
  | some name => r.contains name

/-- From the weakest to the strongest; equal ranks keep the order of registration. -/
def ranked (r : Registry) : List Method := r.methods.mergeSort fun m n => m.rank ≤ n.rank

def strongest? (r : Registry) : Option Method := r.ranked.getLast?

def describe (r : Registry) : Text :=
  "AuthenticationMethodRegistry([" ++ Text.join ", " (r.methods.map Method.describe) ++ "])"

end Registry

end StepUp
