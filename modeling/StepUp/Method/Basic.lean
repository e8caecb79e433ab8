import StepUp.Text.Quoted

/-!
# Authentication methods

A method has a name and a rank; a higher rank is a stronger method. Methods of equal rank are
equally strong and yet different.
-/

namespace StepUp

structure Method where
  name : Text
  rank : Int
deriving DecidableEq

namespace Method

def isStrongerThan (m n : Method) : Bool := n.rank < m.rank

def isWeakerThan (m n : Method) : Bool := m.rank < n.rank

def describe (m : Method) : Text :=
  "AuthenticationMethod(name=" ++ Text.quoted m.name ++ ", rank=" ++ Text.ofInt m.rank ++ ")"

end Method

end StepUp
