import StepUp.Audit.Event
import StepUp.Log.Record

/-!
# Audit sinks

Where audit events are written to. A write may fail; that is told in the system log and changes
nothing else.
-/

namespace StepUp

/-- For each write, counted from zero, the text of the error it meets, if any. -/
structure AuditSink where
  errorOf : Nat → Option Text

namespace AuditSink

def working : AuditSink := ⟨fun _ => none⟩

def broken (error : Text) : AuditSink := ⟨fun _ => some error⟩

end AuditSink

/-- What became of an event that was handed to a sink, if there is one. -/
structure Delivery where
  written : List AuditEvent
  records : List LogRecord
  attempts : Nat

namespace Delivery

def failureRecord (e : AuditEvent) (error : Text) : LogRecord :=
  { level := .error
    event := "resolution_log_failed"
    message := "Failed to write resolution event: " ++ error
    requestId := some e.requestId }

/-- Write an event as write number `n`. -/
def of (sink : Option AuditSink) (n : Nat) (event : Option AuditEvent) : Delivery :=
  match sink, event with
  | some sink, some e =>
    match sink.errorOf n with
    | none => ⟨[e], [], n + 1⟩
    | some error => ⟨[], [failureRecord e error], n + 1⟩
  | _, _ => ⟨[], [], n⟩

end Delivery

end StepUp
