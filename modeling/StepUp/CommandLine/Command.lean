import StepUp.CommandLine.Option
import StepUp.Text.Wrap

/-!
# Commands

A command is called by words, the program's name first, and takes options. Help texts are laid out
from these descriptions for a screen of `screenWidth` columns.
-/

namespace StepUp

structure CommandSpec where
  words : List Text
  paragraphs : List Text
  options : List OptionSpec := []
  /-- The words for commands below this one, each with its summary. -/
  subcommands : List (Text × Text) := []

namespace CommandSpec

def screenWidth : Nat := 80

def helpOption : OptionSpec :=
  { long := "--help", short := some 'h', help := "Show this message and exit." }

/-- Every command has a help option, which comes last. -/
def allOptions (c : CommandSpec) : List OptionSpec := c.options ++ [helpOption]

def name (c : CommandSpec) : Text := Text.join " " c.words

def usage (c : CommandSpec) : Text :=
  "Usage: " ++ c.name ++ " [OPTIONS]"
    ++ (if c.subcommands.isEmpty then [] else " COMMAND [ARGS]..." : Text)

/-! ## Help -/

def helpParagraph (t : Text) : Text :=
  Text.join "\n" ((Text.wrap (screenWidth - 2) t).map fun line => Text.blanks 2 ++ line)

/-- Terms with their explanations in a second column. -/
def helpTable (rows : List (Text × Text)) : List Text :=
  let column := rows.foldl (fun n row => max n row.1.length) 0 + 2
  rows.flatMap fun (term, explanation) =>
    match Text.wrap (screenWidth - column - 2) explanation with
    | [] => [Text.blanks 2 ++ term]
    | first :: more =>
      (Text.blanks 2 ++ term ++ Text.blanks (column - term.length) ++ first)
        :: more.map fun line => Text.blanks (column + 2) ++ line

def optionRow (o : OptionSpec) : Text × Text :=
  (o.synopsis, o.help ++ (if o.required then "  [required]" else [] : Text))

def helpSection (title : Text) (rows : List (Text × Text)) : Text :=
  Text.join "\n" ((title ++ ":") :: helpTable rows)

def help (c : CommandSpec) : Text :=
  let sections := c.usage :: c.paragraphs.map helpParagraph
    ++ [helpSection "Options" (c.allOptions.map optionRow)]
    ++ (if c.subcommands.isEmpty then [] else [helpSection "Commands" c.subcommands])
  Text.join "\n\n" sections

/-! ## The commands of this program -/

def programName : Text := "mfa-gate"

def programVersion : Text := "0.1.0"

def versionOption : OptionSpec :=
  { long := "--version", short := some 'v', help := "Show version" }

def pathOption : OptionSpec :=
  { long := "--path", short := some 'p', value := some "FILE", required := true
    help := "Configuration file (or MFA_GATE_CONFIG)" }

def jsonOption : OptionSpec := { long := "--json", help := "Output as JSON" }

def serviceOption : OptionSpec :=
  { long := "--service", short := some 's', value := some "TEXT", help := "Target service URL" }

def methodOption : OptionSpec :=
  { long := "--authn-method", short := some 'm', value := some "TEXT"
    help := "Explicitly requested method" }

def principalOption : OptionSpec :=
  { long := "--principal", value := some "TEXT", help := "Authenticated principal id" }

def attributeOption : OptionSpec :=
  { long := "--attribute", short := some 'a', value := some "TEXT"
    help := "Principal attribute NAME=VALUE (repeatable, requires --principal)" }

def validate : CommandSpec :=
  { words := [programName, "config", "validate"]
    paragraphs :=
      ["Validate configuration file.",
        "Checks the config file for: - Valid JSON syntax - Schema validation (method names, "
          ++ "ranks, services) - Unique method names and a known default method",
        "Exit codes:     0: Config is valid     1: Config is invalid or not found"]
    options := [pathOption] }

def config : CommandSpec :=
  { words := [programName, "config"]
    paragraphs := ["Configuration commands."]
    subcommands := [("validate", "Validate configuration file.")] }

def methods : CommandSpec :=
  { words := [programName, "methods"]
    paragraphs := ["List supported authentication methods, strongest last."]
    options := [pathOption, jsonOption] }

def resolve : CommandSpec :=
  { words := [programName, "resolve"]
    paragraphs :=
      ["Show which authentication method a login request would require.",
        "Exit codes:     0: Resolved (MFA required or not)     1: Config invalid or resolution "
          ++ "failed     2: Requested method is not supported"]
    options := [pathOption, serviceOption, methodOption, principalOption, attributeOption] }

def program : CommandSpec :=
  { words := [programName]
    paragraphs := ["mfa-gate: Multi-factor authentication method resolution."]
    options := [versionOption]
    subcommands :=
      [("config", "Configuration commands."),
        ("methods", "List supported authentication methods, strongest last."),
        ("resolve", "Show which authentication method a login request would require.")] }

end CommandSpec

end StepUp
