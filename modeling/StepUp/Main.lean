import StepUp.CommandLine.Run
import Std.Time.DateTime

/-!
# The program

The outer layer of a run: it looks up the files that the arguments lead to, runs the program on
them, and writes what the run has printed and appended.
-/

namespace StepUp.Main

/-- What is at a path: a directory, a file with the octets that `read` gives, or nothing. -/
def look (read : String → IO ByteArray) (p : Path) : IO (Option FileNode) := do
  try
    return some (.file (← read p.text.toString).toList)
  catch
    | .inappropriateType _ 21 _ => return some (.directory FileTree.directoryMode)
    | _ => return none

/-- Note that a file is there and can be read, but nothing of its octets. -/
def touch (name : String) : IO ByteArray := do
  let handle ← IO.FS.Handle.mk name .read
  let _ ← handle.read 1
  return .empty

/-- Add what is at a path and on the way to it. -/
def observe (read : String → IO ByteArray) (t : FileTree) (p : Path) : IO FileTree := do
  let mut t := t
  for n in List.range p.parts.length do
    let here : Path := { p with parts := p.parts.take (n + 1) }
    let reader := if n + 1 = p.parts.length then read else touch
    if let some node ← look reader here then t := t.set here node
  return t

/-- The files that a run looks at. Of log files only what is appended matters. -/
def gather (homes : Homes) (i : Invocation) : IO FileTree := do
  let some path := i.configPath? | return {}
  let t ← observe (fun name => IO.FS.readBinFile name) {} (Path.parse path)
  match i, Config.load t (Path.parse path) with
  | .resolve _ _, .ok c =>
    let mut t := t
    for file in [LoggingConfig.systemFile, LoggingConfig.auditFile] do
      if let .ok (some p) := c.logging.locate? homes file then
        t ← observe touch t p
        t ← observe touch t p.normal
    return t
  | _, _ => return t

def nameOf (place : Place) : String :=
  match place with
  | [] => "."
  | part :: rest =>
    (if part = "/" then Text.join "/" ([] :: rest) else Text.join "/" (part :: rest)).toString

def isPrivate (mode : Nat) : Bool := mode == FileTree.privateMode

/-- Bring the file system from one tree to a later one. -/
def commit (before after : FileTree) : IO Unit := do
  for (place, node) in after.entries do
    let name := nameOf place
    match node, before.entries.lookup place with
    | .directory mode, found =>
      if found.isNone then IO.FS.createDir name
      if isPrivate mode then IO.setAccessRights name ⟨⟨true, true, true⟩, {}, {}⟩
    | .file octets, found =>
      let old := match found with
        | some (.file old) => old
        | _ => []
      if found.isNone || old.length < octets.length then
        let handle ← IO.FS.Handle.mk name .append
        handle.write ⟨(octets.drop old.length).toArray⟩

def readLines (name : String) : IO (List Text) := do
  try
    return (← IO.FS.lines name).toList.map Text.ofString
  catch _ => return []

def surroundings (arguments : List Text) : IO Surroundings := do
  let accounts ← readLines "/etc/passwd"
  let homes := Homes.ofAccounts (Text.ofString ((← IO.getEnv "HOME").getD "/")) accounts
  let configPath := (← IO.getEnv "MFA_GATE_CONFIG").map Text.ofString
  let files ← match Invocation.ofArguments ⟨configPath, fun _ => false⟩ arguments with
    | .ok i => gather homes i
    | .error _ => pure {}
  let now ← Std.Time.Timestamp.now
  let number ← IO.rand 0 (Nat.pow 2 122 - 1)
  return {
    files := files
    configPath := configPath
    homes := homes
    now := ⟨now.toNanosecondsSinceUnixEpoch.val / 1000⟩
    requestId := RequestContext.idOfNumber number
    colors := ← (← IO.getStdout).isTty }

end StepUp.Main

def main (arguments : List String) : IO UInt32 := do
  let arguments := arguments.map StepUp.Text.ofString
  let s ← StepUp.Main.surroundings arguments
  let r := s.run arguments
  StepUp.Main.commit s.files r.files
  IO.print r.output.toString
  IO.eprint r.errors.toString
  if let some obstacle := r.obstacle then IO.eprintln obstacle.message.toString
  return r.exitCode.toUInt32
