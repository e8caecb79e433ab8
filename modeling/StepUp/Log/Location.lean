import StepUp.Config.Basic
import StepUp.File.Homes

/-!
# Where the log files are

A configuration names a log directory; the two log files are below it, each in a directory of its
own. Without a log directory there are no log files.
-/

namespace StepUp.LoggingConfig

def auditFile : Path := Path.parse "audit/resolutions.jsonl"

def systemFile : Path := Path.parse "system/system.jsonl"

/-- The log directory, a tilde in front replaced by the home directory it means. -/
def directory? (c : LoggingConfig) (homes : Homes) : Except HomeFault (Option Path) :=
  match c.logDir with
  | none => .ok none
  | some dir => ((Path.parse dir).expandUser homes).map some

/-- The path of a log file, which is given below the log directory. -/
def locate? (c : LoggingConfig) (homes : Homes) (file : Path) :
    Except HomeFault (Option Path) :=
  (c.directory? homes).map fun dir => dir.map fun d => d.append file

end StepUp.LoggingConfig
