import StepUp.CommandLine.Command

/-!
# Usage errors

What is wrong with the arguments of a command. The error is told behind the command's usage,
except where an option and its value do not go together, which is told alone.
-/

namespace StepUp

inductive UsageFault where
  | reading (f : ReadingFault)
  | noCommand
  | unknownCommand (name : Text) (similar : List Text)
  | noOption (o : OptionSpec)
  | isDirectory (o : OptionSpec) (path : Text)
  | leftOver (arguments : List Text)
  | attributesWithoutPrincipal
  | malformedAttribute (pair : Text)

namespace UsageFault

/-- The question whether one of some similar names was meant, behind a message. -/
def suggestOptions (message : Text) : List Text → Text
  | [] => message
  | [name] => message ++ " Did you mean " ++ name ++ "?"
  | names => message ++ " (Possible options: " ++ Text.join ", " names ++ ")"

def suggestCommands (message : Text) : List Text → Text
  | [] => message
  | [name] => message ++ " Did you mean " ++ Text.quoted name ++ "?"
  | names =>
    message ++ " (Did you mean one of: " ++ Text.join ", " (names.map Text.quoted) ++ "?)"

def message : UsageFault → Text
  | .reading (.noArgument name) => "Option " ++ Text.quoted name ++ " requires an argument."
  | .reading (.needlessArgument name) => "Option " ++ Text.quoted name ++ " does not take a value."
  | .reading (.unknown name similar) => suggestOptions ("No such option: " ++ name) similar
  | .noCommand => "Missing command."
  | .unknownCommand name similar =>
    suggestCommands ("No such command " ++ Text.quoted name ++ ".") similar
  | .noOption o => "Missing option " ++ o.hint ++ "."
  | .isDirectory o path =>
    "Invalid value for " ++ o.hint ++ ": File " ++ Text.quoted path ++ " is a directory."
  | .leftOver arguments =>
    "Got unexpected extra argument" ++ (if arguments.length = 1 then [] else "s" : Text) ++ " ("
      ++ Text.join " " arguments ++ ")"
  | .attributesWithoutPrincipal => "--attribute requires --principal"
  | .malformedAttribute pair =>
    "Invalid value for --attribute: Expected NAME=VALUE, got '" ++ pair ++ "'"

/-- Whether the usage is told with the error. -/
def showsUsage : UsageFault → Bool
  | .reading (.noArgument _) => false
  | .reading (.needlessArgument _) => false
  | _ => true

/-- The lines that tell the error. -/
def report (c : CommandSpec) (f : UsageFault) : Text :=
  (if f.showsUsage then
    c.usage ++ "\nTry '" ++ c.name ++ " --help' for help.\n\n"
  else [] : Text)
  ++ "Error: " ++ f.message

end UsageFault

end StepUp
