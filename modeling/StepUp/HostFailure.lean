import StepUp.Text.CodePoint

/-!
# Failures of the host

The host's directories and stores, and sources of its own, may fail in ways this library does not
know. What remains of such a failure is the name of its kind and its text.
-/

namespace StepUp

structure HostFailure where
  kind : Text
  text : Text
deriving DecidableEq

namespace HostFailure

def describe (f : HostFailure) : Text := f.kind ++ ": " ++ f.text

end HostFailure

end StepUp
