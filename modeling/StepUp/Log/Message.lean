import StepUp.Log.Record
import StepUp.Log.Template
import StepUp.Json.Printer
import StepUp.Time.Instant

/-!
# Written log messages

What a log is given is a text or a dictionary. The console shows its message in one line after the
level; a log file gets one JSON object a line, the time first.
-/

namespace StepUp

inductive LogMessage where
  | text (t : Text)
  | fields (entries : List (Text × Json))

namespace LogMessage

/-- What the console shows: the message of a dictionary, or its event where there is none. -/
def shown : LogMessage → Text
  | .text t => t
  | .fields entries =>
    match (entries.lookup ("message" : Text)).filter Json.isTruthy with
    | some v => v.display
    | none => ((entries.lookup ("event" : Text)).getD (Json.str [])).display

def consoleLine (level : Level) (m : LogMessage) : Text := level.text ++ ": " ++ m.shown

def entries : LogMessage → List (Text × Json)
  | .text t => [("message", .str t)]
  | .fields entries => entries

/-- The object that is written for a message. An entry `time` of its own takes the place of the
time. -/
def toJson (time : Text) (m : LogMessage) : Json :=
  Json.ofEntries (("time", .str time) :: m.entries)

def jsonLine (time : Text) (m : LogMessage) : Text := (m.toJson time).render

def ofRecord (r : LogRecord) : LogMessage := .fields r.fields

end LogMessage

end StepUp
