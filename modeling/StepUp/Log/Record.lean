import StepUp.Json.Value

/-!
# Records of the system log

A record tells an event with a message for people, and carries the request it belongs to where
the writer knows it.
-/

namespace StepUp

inductive Level where
  | debug
  | info
  | warning
  | error
  | critical
deriving DecidableEq

namespace Level

def severity : Level → Nat
  | .debug => 10
  | .info => 20
  | .warning => 30
  | .error => 40
  | .critical => 50

def text : Level → Text
  | .debug => "DEBUG"
  | .info => "INFO"
  | .warning => "WARNING"
  | .error => "ERROR"
  | .critical => "CRITICAL"

def all : List Level := [.debug, .info, .warning, .error, .critical]

def ofText? (t : Text) : Option Level := all.find? (·.text == t)

/-- Whether a log that is set to `threshold` takes a record of this level. -/
def reaches (l threshold : Level) : Bool := threshold.severity ≤ l.severity

end Level

structure LogRecord where
  level : Level
  event : Text
  message : Text
  /-- What the record tells besides event and message. -/
  details : List (Text × Json) := []
  requestId : Option Text := none

namespace LogRecord

def fields (r : LogRecord) : List (Text × Json) :=
  [(("event" : Text), .str r.event), ("message", .str r.message)] ++ r.details
    ++ (match r.requestId with
      | some id => [(("request_id" : Text), .str id)]
      | none => [])

end LogRecord

end StepUp
