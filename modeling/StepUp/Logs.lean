import StepUp.Audit.Sink
import StepUp.File.Tree
import StepUp.Log.Location
import StepUp.Log.Message

/-!
# The logs of a process

Records of the system log are shown on the console from a level on that each configuration sets
anew; warnings and what is above also go to a file, the first one that a configuration names.
Audit events go to a file only, and each configuration that names a directory moves them there.

A configuration that fails leaves what was done until then. In particular the audit log is
detached from its file before the next file is opened: when that cannot be opened, no file is
written to any more.
-/

namespace StepUp

/-- Where audit events go. -/
inductive AuditTarget where
  | file
  | broken (error : Text)
deriving DecidableEq

inductive LogFault where
  | home (f : HomeFault)
  | file (f : FileFault)
  | noDirectory (directory : Text) (f : FileFault)
  | noAuditLog
deriving DecidableEq

namespace LogFault

def directoryMessage (directory : Text) (f : FileFault) : Text :=
  "Failed to create log directory " ++ directory ++ ": " ++ f.message

def message : LogFault → Text
  | .home f => f.message
  | .file f => f.message
  | .noDirectory directory f => directoryMessage directory f
  | .noAuditLog => "no audit log is configured"

end LogFault

structure Logs where
  files : FileTree := {}
  /-- The lowest level that the console shows. -/
  threshold : Level := .info
  /-- The file of the system log, once there is one. -/
  systemFile : Option Path := none
  /-- The file that the audit log is attached to. -/
  auditFile : Option Path := none
  audit : Option AuditTarget := none
  /-- What was written to the console. -/
  console : Text := []

inductive LogStep where
  | configure (c : LoggingConfig)
  | system (level : Level) (m : LogMessage)
  | audit (e : AuditEvent)
  | breakAudit (error : Text)

inductive LogReply where
  | done
  /-- Whether a configuration provided an audit log. -/
  | configured (audited : Bool)
deriving DecidableEq

namespace Logs

def appendLine (l : Logs) (p : Path) (line : Text) : Logs :=
  { l with files := l.files.append p (Utf8.encode (line ++ "\n")) }

/-- The file that a record of the system log goes to. -/
def fileFor? (l : Logs) (level : Level) : Option Path :=
  if level.reaches .warning then l.systemFile else none

/-- Write a record of the system log. -/
def record (now : Instant) (level : Level) (m : LogMessage) (l : Logs) : Logs :=
  if level.reaches l.threshold then
    let l := { l with console := l.console ++ m.consoleLine level ++ "\n" }
    match l.fileFor? level with
    | some p => l.appendLine p (m.jsonLine now.render)
    | none => l
  else l

def recordOf (now : Instant) (r : LogRecord) (l : Logs) : Logs :=
  l.record now r.level (.ofRecord r)

/-- Hand an event to the audit log. -/
def tell (now : Instant) (e : AuditEvent) (l : Logs) : Except LogFault Logs :=
  match l.audit with
  | none => .error .noAuditLog
  | some (.broken error) => .ok (l.recordOf now (Delivery.failureRecord e error))
  | some .file =>
    match l.auditFile with
    | some p => .ok (l.appendLine p ((LogMessage.fields e.fields).jsonLine now.render))
    | none => .ok l

/-! ## Configuration -/

/-- Create the directory that a log file is in and leave it to its owner. -/
def makeRoom (t : FileTree) (p : Path) : FileTree × Except FileFault Unit :=
  match t.makeDirectories p.parent with
  | (t, .ok ()) => (t.restrict p.parent, .ok ())
  | failure => failure

def unavailable (directory : Text) (f : FileFault) : LogRecord :=
  { level := .warning
    event := "system_log_file_unavailable"
    message := "System log file disabled: " ++ LogFault.directoryMessage directory f }

/-- Attach the system log to a file, unless it is attached to one. A directory that cannot be
created is told in the log and is no failure. -/
def attachSystemFile (now : Instant) (p : Path) (l : Logs) : Logs × Except LogFault Unit :=
  match l.systemFile with
  | some _ => (l, .ok ())
  | none =>
    match makeRoom l.files p with
    | (t, .error .nullInPath) => ({ l with files := t }, .error (.file .nullInPath))
    | (t, .error f) =>
      (({ l with files := t }).recordOf now (unavailable p.parent.text f), .ok ())
    | (t, .ok ()) =>
      match t.openToAppend p.normal with
      | .error f => ({ l with files := t }, .error (.file f))
      | .ok t => ({ l with files := t, systemFile := some p.normal }, .ok ())

/-- Attach the audit log to a file instead of the one it is attached to. -/
def attachAuditFile (p : Path) (l : Logs) : Logs × Except LogFault Unit :=
  match makeRoom l.files p with
  | (t, .error .nullInPath) => ({ l with files := t }, .error (.file .nullInPath))
  | (t, .error f) => ({ l with files := t }, .error (.noDirectory p.parent.text f))
  | (t, .ok ()) =>
    match t.openToAppend p.normal with
    | .error f => ({ l with files := t, auditFile := none }, .error (.file f))
    | .ok t => ({ l with files := t, auditFile := some p.normal, audit := some .file }, .ok ())

/-- Apply a configuration. The answer tells whether it provided an audit log. -/
def configure (homes : Homes) (now : Instant) (c : LoggingConfig) (l : Logs) :
    Logs × Except LogFault Bool :=
  let l := { l with threshold := c.logLevel }
  match c.directory? homes with
  | .error f => (l, .error (.home f))
  | .ok none => (l, .ok false)
  | .ok (some dir) =>
    match l.attachSystemFile now (dir.append LoggingConfig.systemFile) with
    | (l, .error f) => (l, .error f)
    | (l, .ok ()) =>
      let (l, outcome) := l.attachAuditFile (dir.append LoggingConfig.auditFile)
      (l, outcome.map fun _ => true)

/-! ## Steps -/

def step (homes : Homes) (now : Instant) (l : Logs) : LogStep → Logs × Except LogFault LogReply
  | .configure c =>
    let (l, outcome) := l.configure homes now c
    (l, outcome.map .configured)
  | .system level m => (l.record now level m, .ok .done)
  | .audit e =>
    match l.tell now e with
    | .ok l => (l, .ok .done)
    | .error f => (l, .error f)
  | .breakAudit error => ({ l with audit := some (.broken error) }, .ok .done)

/-- Take the steps in turn, each at its time; each outcome comes with the logs after it. -/
def run (homes : Homes) (l : Logs) :
    List (Instant × LogStep) → List (Logs × Except LogFault LogReply)
  | [] => []
  | (now, s) :: rest =>
    let (next, outcome) := l.step homes now s
    (next, outcome) :: run homes next rest

end Logs

end StepUp
