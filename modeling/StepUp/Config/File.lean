import StepUp.Config.Basic
import StepUp.File.Tree
import StepUp.Json.Parser
import StepUp.Json.Printer

/-!
# Configuration files

A configuration file is UTF-8 text in JSON. What is wrong with it is told in one line, or, where
the document is at fault, in one line for each issue. Saving writes every field, on lines of its
own.
-/

namespace StepUp.Config

inductive LoadFault where
  | missing (path : Text)
  | inaccessible (f : FileFault)
  | unreadable (path : Text) (f : FileFault)
  | notUtf8 (f : Utf8.Fault)
  | notJson (path : Text) (reason : Text)
  | oversizedInteger (digits : Nat)
  | invalid (path : Text) (document : Json) (issues : List Issue)

/-- Carriage returns, with or without a line feed behind, are line breaks. -/
def unifyLineBreaks : Text → Text
  | [] => []
  | c :: rest =>
    if c.val = 0x0D then
      match rest with
      | d :: more =>
        if d.val = 0x0A then d :: unifyLineBreaks more
        else CodePoint.ofChar '\n' :: unifyLineBreaks (d :: more)
      | [] => [CodePoint.ofChar '\n']
    else c :: unifyLineBreaks rest

/-- The name of the method that an issue is about, where it can be told from the document. -/
def methodAt? (document : Json) (location : List LocationPart) : Option Text :=
  match location with
  | .field top :: .index i :: _ =>
    if top = "authentication_methods" then do
      let .arr methods ← document.get? "authentication_methods" | none
      let name ← (← methods[i]?).get? "name"
      if name.isTruthy then some name.display else none
    else none
  | _ => none

def issueLine (document : Json) (i : Issue) : Text :=
  let path : Text := if i.path.isEmpty then "(root)" else i.path
  let context := match methodAt? document i.location with
    | some name => " (method '" ++ name ++ "')"
    | none => []
  "  - " ++ path ++ context ++ ": " ++ i.problem.message

def LoadFault.message : LoadFault → Text
  | .missing path => "Configuration file not found at " ++ path ++ "."
  | .inaccessible f => f.message
  | .unreadable path f => "Could not read configuration file " ++ path ++ ": " ++ f.message
  | .notUtf8 f => f.message
  | .notJson path reason => "Invalid JSON in configuration file " ++ path ++ ": " ++ reason
  | .oversizedInteger digits => Json.oversizedIntegerMessage digits
  | .invalid path document issues =>
    "Invalid configuration file " ++ path ++ ":\n"
      ++ Text.join "\n" (issues.map (issueLine document))

/-- The configuration that a text denotes. -/
def ofText (path : Text) (source : Text) : Except LoadFault Config :=
  match Json.parse source with
  | .error (.oversizedInteger digits) => .error (.oversizedInteger digits)
  | .error f => .error (.notJson path (f.message source))
  | .ok document => (check document).mapError fun issues => .invalid path document issues

def ofOctets (path : Text) (octets : List UInt8) : Except LoadFault Config :=
  match Utf8.decode octets with
  | .error f => .error (.notUtf8 f)
  | .ok t => ofText path (unifyLineBreaks t)

def load (files : FileTree) (path : Path) : Except LoadFault Config :=
  match files.exists? path with
  | .error f => .error (.inaccessible f)
  | .ok false => .error (.missing path.text)
  | .ok true =>
    match files.read path with
    | .error f => .error (.unreadable path.text f)
    | .ok octets => ofOctets path.text octets

/-- The document as it is saved: in keys, surrogates become replacement characters. -/
def savedJson (c : Config) : Json :=
  let services := c.services.map fun d =>
    let pairs := d.properties.map fun p => (Problem.withoutSurrogates p.1, p.2)
    { d with
      properties := pairs.foldl (fun ps p =>
        if (ps.lookup p.1).isSome then ps.map fun q => if q.1 = p.1 then p else q
        else ps ++ [p]) [] }
  ({ c with services := services }).toJson

/-- The text of a saved configuration. -/
def save (c : Config) : Text := c.savedJson.renderIndented ++ "\n"

/-- Save a configuration in a file. Directories missing on the way to it are created, and stay when
the file cannot be written. -/
def saveTo (files : FileTree) (path : Path) (c : Config) : FileTree × Except FileFault Unit :=
  match files.makeDirectories path.parent with
  | (files, .error f) => (files, .error f)
  | (files, .ok ()) =>
    match files.overwrite path (Utf8.encode c.save) with
    | .error f => (files, .error f)
    | .ok files => (files, .ok ())

end StepUp.Config
