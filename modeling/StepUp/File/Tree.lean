import StepUp.File.Path
import StepUp.Text.Quoted
import StepUp.Text.Utf8

/-!
# File trees

The directories and files around a working directory. Operations fail as a file system's do: a
part of the way is missing, is no directory or has too long a name, something is in the way, or a
file was expected and a directory found. What is done besides creating and appending is nothing.
-/

namespace StepUp

inductive FileError where
  | noEntry
  | exists
  | notDirectory
  | isDirectory
  | nameTooLong
deriving DecidableEq

namespace FileError

def number : FileError → Nat
  | .noEntry => 2
  | .exists => 17
  | .notDirectory => 20
  | .isDirectory => 21
  | .nameTooLong => 36

def text : FileError → Text
  | .noEntry => "No such file or directory"
  | .exists => "File exists"
  | .notDirectory => "Not a directory"
  | .isDirectory => "Is a directory"
  | .nameTooLong => "File name too long"

end FileError

/-- An operation failed on a path; a path with a null character is refused before. -/
inductive FileFault where
  | system (error : FileError) (path : Text)
  | nullInPath
deriving DecidableEq

namespace FileFault

def message : FileFault → Text
  | .system error path =>
    "[Errno " ++ Text.ofNat error.number ++ "] " ++ error.text ++ ": " ++ Text.quoted path
  | .nullInPath => "embedded null byte"

end FileFault

inductive FileNode where
  | directory (mode : Nat)
  | file (octets : List UInt8)

/-- A place in a tree: the parts that lead there from the working directory. Parts `..` in front
lead above it, and a part `/` in front starts from the root. -/
abbrev Place := List Text

structure FileTree where
  entries : List (Place × FileNode) := []

namespace FileTree

/-- Directories and files are created with these permissions. -/
def directoryMode : Nat := 0o755

/-- Permissions for the owner alone. -/
def privateMode : Nat := 0o700

def maxNameLength : Nat := 255

def maxPathLength : Nat := 4095

/-- The working directory, the root and what lies above are there. -/
def isGiven (place : Place) : Bool :=
  match place.getLast? with
  | none => true
  | some part => part == ".." || part == "/"

def node? (t : FileTree) (place : Place) : Option FileNode :=
  if isGiven place then some (.directory directoryMode) else t.entries.lookup place

def put (t : FileTree) (place : Place) (node : FileNode) : FileTree :=
  match t.entries.lookup place with
  | none => ⟨t.entries ++ [(place, node)]⟩
  | some _ => ⟨t.entries.map fun e => if e.1 = place then (place, node) else e⟩

/-- The place that a part leads to. -/
def step (place : Place) (part : Text) : Place :=
  if part != ".." then place ++ [part]
  else match place.getLast? with
    | none => [".."]
    | some last =>
      if last == ".." then place ++ [last] else if last == "/" then place else place.dropLast

/-- Follow the parts; all but the last have to lead to directories. -/
def walk (t : FileTree) (place : Place) : List Text → Except FileError Place
  | [] => .ok place
  | part :: rest =>
    match t.node? place with
    | none => .error .noEntry
    | some (.file _) => .error .notDirectory
    | some (.directory _) =>
      if maxNameLength < (Utf8.encode part).length then .error .nameTooLong
      else walk t (step place part) rest

def resolve (t : FileTree) (p : Path) : Except FileError Place :=
  if maxPathLength < (Utf8.encode p.text).length then .error .nameTooLong
  else walk t (if p.root.isEmpty then [] else ["/"]) p.parts

def find (t : FileTree) (p : Path) : Except FileError FileNode := do
  match t.node? (← t.resolve p) with
  | some node => return node
  | none => .error .noEntry

def isDirectory (t : FileTree) (p : Path) : Bool :=
  match t.find p with
  | .ok (.directory _) => true
  | _ => false

/-- Create one directory. -/
def makeDirectory (t : FileTree) (p : Path) : Except FileError FileTree := do
  let place ← t.resolve p
  match t.node? place with
  | some _ => .error .exists
  | none => return t.put place (.directory directoryMode)

/-- Create one directory if it is not there. -/
def ensureDirectory (t : FileTree) (p : Path) : Except FileError FileTree :=
  match t.makeDirectory p with
  | .ok t => .ok t
  | .error .noEntry => .error .noEntry
  | .error e => if t.isDirectory p then .ok t else .error e

/-- Create the directory of the first `n` parts of a path and what is missing on the way to it. A
failure tells for which directory; what was created before stays. -/
def makeDirectoriesUpTo (t : FileTree) (p : Path) :
    Nat → FileTree × Except (FileError × Path) Unit
  | 0 => (t, .ok ())
  | n + 1 =>
    let here : Path := { p with parts := p.parts.take (n + 1) }
    match t.ensureDirectory here with
    | .ok t => (t, .ok ())
    | .error .noEntry =>
      match t.makeDirectoriesUpTo p n with
      | (t, .ok ()) =>
        match t.ensureDirectory here with
        | .ok t => (t, .ok ())
        | .error e => (t, .error (e, here))
      | failure => failure
    | .error e => (t, .error (e, here))

def hasNull (p : Path) : Bool := p.text.any fun c => c.val == 0

/-- Create a directory and everything missing on the way to it. -/
def makeDirectories (t : FileTree) (p : Path) : FileTree × Except FileFault Unit :=
  if hasNull p then (t, .error .nullInPath)
  else
    let (t, outcome) := t.makeDirectoriesUpTo p p.parts.length
    (t, outcome.mapError fun (e, q) => .system e q.text)

/-- Leave a directory to its owner alone. -/
def restrict (t : FileTree) (p : Path) : FileTree :=
  match t.resolve p with
  | .ok place => if isGiven place then t else t.put place (.directory privateMode)
  | .error _ => t

/-- Make sure that a file is there to append to. -/
def openToAppend (t : FileTree) (p : Path) : Except FileFault FileTree :=
  match t.resolve p with
  | .error e => .error (.system e p.text)
  | .ok place =>
    match t.node? place with
    | some (.directory _) => .error (.system .isDirectory p.text)
    | some (.file _) => .ok t
    | none => .ok (t.put place (.file []))

def append (t : FileTree) (p : Path) (octets : List UInt8) : FileTree :=
  match t.resolve p with
  | .error _ => t
  | .ok place =>
    match t.node? place with
    | some (.file before) => t.put place (.file (before ++ octets))
    | _ => t

/-- The tree in which a path leads to the given file or directory. -/
def set (t : FileTree) (p : Path) (node : FileNode) : FileTree :=
  match t.resolve p with
  | .error _ => t
  | .ok place => t.put place node

def write (t : FileTree) (p : Path) (octets : List UInt8) : FileTree := t.set p (.file octets)

/-- Write a file anew, whatever was in it. -/
def overwrite (t : FileTree) (p : Path) (octets : List UInt8) : Except FileFault FileTree :=
  if hasNull p then .error .nullInPath
  else match t.resolve p with
    | .error e => .error (.system e p.text)
    | .ok place =>
      match t.node? place with
      | some (.directory _) => .error (.system .isDirectory p.text)
      | _ => .ok (t.put place (.file octets))

def read (t : FileTree) (p : Path) : Except FileFault (List UInt8) :=
  match t.find p with
  | .error e => .error (.system e p.text)
  | .ok (.directory _) => .error (.system .isDirectory p.text)
  | .ok (.file octets) => .ok octets

/-- Whether something is there. A name that is too long is an error, other obstacles are not. -/
def exists? (t : FileTree) (p : Path) : Except FileFault Bool :=
  if hasNull p then .ok false
  else match t.find p with
    | .ok _ => .ok true
    | .error .nameTooLong => .error (.system .nameTooLong p.text)
    | .error _ => .ok false

end FileTree

end StepUp
