import StepUp.CommandLine.Invocation
import StepUp.CommandLine.Style
import StepUp.Config.File
import StepUp.Logs

/-!
# Running the program

`run` takes the arguments and everything else that a run depends on, and gives the exit code, what
is printed and the files afterwards. An obstacle that no command expects ends the run; it is part
of the result.
-/

namespace StepUp

/-- Everything that a run depends on besides its arguments. -/
structure Surroundings where
  files : FileTree
  /-- The path of the configuration that the environment names. -/
  configPath : Option Text
  homes : Homes
  now : Instant
  /-- The identifier of the request of a dry run. -/
  requestId : Text
  colors : Bool

/-- An obstacle that no command expects. -/
inductive Obstacle where
  | file (f : FileFault)
  | log (f : LogFault)

def Obstacle.message : Obstacle → Text
  | .file f => f.message
  | .log f => f.message

structure RunResult where
  exitCode : Nat := 0
  output : Text := []
  errors : Text := []
  files : FileTree
  obstacle : Option Obstacle := none

namespace RunResult

def failureCode : Nat := 1

def usageCode : Nat := 2

/-- The requested method is not supported. -/
def rejectedCode : Nat := 2

end RunResult

namespace Surroundings

/-- A line of output. -/
def line (s : Surroundings) (t : Text) : Text :=
  (if s.colors then t else Style.strip t) ++ "\n"

/-- Surrogates have no place among the characters of an output and are written by number. -/
def withoutSurrogates (t : Text) : Text :=
  t.flatMap fun c => if c.isSurrogate then Text.escapeByNumber c else [c]

def succeed (s : Surroundings) (lines : List Text) : RunResult :=
  { output := lines.flatMap s.line, files := s.files }

def fail (s : Surroundings) (code : Nat) (message : Text) : RunResult :=
  { exitCode := code
    errors := withoutSurrogates (s.line (Style.failure.apply ("✗ " ++ message)))
    files := s.files }

def success (message : Text) : Text := Style.success.apply ("✓ " ++ message)

def label (name : Text) : Text := Style.label.apply (name ++ ":")

/-- Go on with the configuration at a path. -/
def withConfig (s : Surroundings) (path : Text) (k : Config → RunResult) : RunResult :=
  match Config.load s.files (Path.parse path) with
  | .ok c => k c
  | .error (.inaccessible f) =>
    { exitCode := RunResult.failureCode, files := s.files, obstacle := some (.file f) }
  | .error f => s.fail RunResult.failureCode f.message

/-- Go on with the registry of a configuration. -/
def withRegistry (s : Surroundings) (c : Config) (k : Registry → RunResult) : RunResult :=
  match Registry.ofList? c.methods with
  | .ok r => k r
  | .error f => s.fail RunResult.failureCode f.message

/-- A count with its noun, which takes an `s` unless the count is one. -/
def counted (n : Nat) (noun : Text) : Text :=
  Text.ofNat n ++ " " ++ noun ++ (if n = 1 then [] else "s" : Text)

def runValidate (s : Surroundings) (path : Text) : RunResult :=
  s.withConfig path fun c =>
    s.withRegistry c fun r =>
      let defaultMethod := (c.defaultMethod.filter fun m => !m.isEmpty).getD "none"
      s.succeed
        [success ("Config valid: " ++ (Path.parse path).text),
          "  " ++ counted r.size "authentication method" ++ " defined",
          "  Default method: " ++ defaultMethod,
          "  " ++ counted c.services.length "service definition"]

def methodLine (m : Method) : Text :=
  "  " ++ Text.padLeft 3 (Text.ofInt m.rank) ++ "  " ++ m.name

def runMethods (s : Surroundings) (path : Text) (asJson : Bool) : RunResult :=
  s.withConfig path fun c =>
    s.withRegistry c fun r =>
      if asJson then s.succeed [(Json.arr (r.ranked.map Config.methodJson)).renderIndented]
      else match r.strongest? with
        | none =>
          s.succeed [Style.faint.apply
            "No authentication methods configured. MFA is never required."]
        | some strongest =>
          s.succeed ([label "Authentication methods"] ++ r.ranked.map methodLine
            ++ [label "Strongest" ++ " " ++ strongest.name])

/-- The end of a dry run by its answer. -/
def answered (s : Surroundings) : Except ResolutionFault (Option Requirement) → RunResult
  | .ok none => s.succeed [Style.faint.apply "No MFA required."]
  | .ok (some r) =>
    s.succeed
      [success ("MFA required: " ++ r.method.name),
        "  " ++ label "Rank" ++ " " ++ Text.ofInt r.method.rank,
        "  " ++ label "Source" ++ " " ++ r.source.text]
  | .error (.rejected r) => s.fail RunResult.rejectedCode r.message
  | .error (.failed reason) => s.fail RunResult.failureCode reason

/-- The logs after a resolution. -/
def logged (s : Surroundings) (r : Resolution) (logs : Logs) : Logs :=
  let logs := r.records.foldl (fun l record => l.recordOf s.now record) logs
  match r.event with
  | some e => (logs.tell s.now e).toOption.getD logs
  | none => logs

/-- The result of a run that has written logs. -/
def afterLogs (logs : Logs) (r : RunResult) : RunResult :=
  { r with errors := withoutSurrogates logs.console ++ r.errors, files := logs.files }

def runResolution (s : Surroundings) (c : Config) (d : DryRun) (a : Option Authentication) :
    RunResult :=
  match ({ files := s.files } : Logs).configure s.homes s.now c.logging with
  | (logs, .error f) =>
    afterLogs logs
      { exitCode := RunResult.failureCode, files := s.files, obstacle := some (.log f) }
  | (logs, .ok _) =>
    match Chain.ofConfig? c (.ofList c.services) (some (DryRun.store a)) with
    | .error f => afterLogs logs (s.fail RunResult.failureCode f.message)
    | .ok chain =>
      let r := d.resolution c chain a s.requestId
      afterLogs (s.logged r logs) (s.answered r.answer)

def refused (s : Surroundings) : Refusal → RunResult
  | .usage c f =>
    { exitCode := RunResult.usageCode, errors := withoutSurrogates (s.line (f.report c))
      files := s.files }
  | .bare c => { exitCode := RunResult.usageCode, errors := s.line c.help, files := s.files }

def runResolve (s : Surroundings) (path : Text) (d : DryRun) : RunResult :=
  s.withConfig path fun c =>
    match d.authentication? with
    | .error f => s.refused (.usage .resolve f)
    | .ok a => s.runResolution c d a

def invoke (s : Surroundings) : Invocation → RunResult
  | .help c => s.succeed [c.help]
  | .version => s.succeed [CommandSpec.programName ++ " " ++ CommandSpec.programVersion]
  | .validate path => s.runValidate path
  | .listMethods path asJson => s.runMethods path asJson
  | .resolve path d => s.runResolve path d

def scope (s : Surroundings) : ArgumentScope :=
  ⟨s.configPath, fun path => s.files.isDirectory (Path.parse path)⟩

def run (s : Surroundings) (arguments : List Text) : RunResult :=
  match Invocation.ofArguments s.scope arguments with
  | .error r => s.refused r
  | .ok i => s.invoke i

end Surroundings

end StepUp
