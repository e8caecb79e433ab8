import StepUp.Text.Similarity
import StepUp.Text.Quoted

/-!
# Options

An option has a long name, most have a short one too; a flag stands alone, other options take a
value. A value follows as the next argument, behind `=` after a long name, or directly after a
short one, and short flags may be written together. An argument `--` ends the options.
-/

namespace StepUp

structure OptionSpec where
  /-- With both dashes. -/
  long : Text
  /-- The letter behind the dash. -/
  short : Option CodePoint := none
  /-- What stands for the value in a help text; a flag has none. -/
  value : Option Text := none
  help : Text
  required : Bool := false

namespace OptionSpec

def isFlag (o : OptionSpec) : Bool := o.value.isNone

def shortName (letter : CodePoint) : Text := [CodePoint.ofChar '-', letter]

/-- The names between apostrophes, as an error message gives them. -/
def hint (o : OptionSpec) : Text :=
  Text.quoted o.long ++ (match o.short with
    | some letter => " / " ++ Text.quoted (shortName letter)
    | none => [])

/-- The names and the value, as a help text gives them. -/
def synopsis (o : OptionSpec) : Text :=
  (match o.short with
    | some letter => shortName letter ++ ", "
    | none => [])
  ++ o.long ++ (match o.value with
    | some v => " " ++ v
    | none => [])

end OptionSpec

/-- Why arguments cannot be read. -/
inductive ReadingFault where
  | noArgument (name : Text)
  | needlessArgument (name : Text)
  | unknown (name : Text) (similar : List Text)
deriving DecidableEq

/-- The options that were given, by their long names and in order, and the other arguments. -/
structure Reading where
  options : List (Text × Text) := []
  rest : List Text := []

namespace Reading

def add (r : Reading) (o : OptionSpec) (value : Text) : Reading :=
  { r with options := (o.long, value) :: r.options }

def isGiven (r : Reading) (long : Text) : Bool := r.options.any fun p => p.1 == long

/-- The values of an option in the order of the arguments. -/
def values (r : Reading) (long : Text) : List Text :=
  (r.options.filter fun p => p.1 == long).map Prod.snd

/-- The value of an option; of several the last. -/
def value? (r : Reading) (long : Text) : Option Text := (r.values long).getLast?

end Reading

/-- What one argument says: the options it gives, and the option, by the name in use, that takes
its value from the next argument. -/
structure Token where
  options : List (OptionSpec × Text) := []
  waiting : Option (Text × OptionSpec) := none

namespace Token

/-- An argument with two dashes. -/
def ofLong (specs : List OptionSpec) (argument : Text) : Except ReadingFault Token :=
  let (name, value) : Text × Option Text :=
    match Text.splitAtFirst (CodePoint.ofChar '=') argument with
    | some (name, value) => (name, some value)
    | none => (argument, none)
  match specs.find? fun o => o.long == name with
  | none => .error (.unknown name (Text.similarTo name (specs.map OptionSpec.long)))
  | some o =>
    match value with
    | some v => if o.isFlag then .error (.needlessArgument name) else .ok { options := [(o, v)] }
    | none => .ok (if o.isFlag then { options := [(o, [])] } else { waiting := some (name, o) })

/-- The letters behind a single dash. -/
def ofLetters (specs : List OptionSpec) : Text → Except ReadingFault Token
  | [] => .ok {}
  | letter :: rest =>
    match specs.find? fun o => o.short == some letter with
    | none => .error (.unknown (OptionSpec.shortName letter) [])
    | some o =>
      if o.isFlag then
        (ofLetters specs rest).map fun t => { t with options := (o, []) :: t.options }
      else if rest.isEmpty then .ok { waiting := some (OptionSpec.shortName letter, o) }
      else .ok { options := [(o, rest)] }

/-- What an argument says if it is one for options. -/
def of? (specs : List OptionSpec) (argument : Text) : Option (Except ReadingFault Token) :=
  match argument with
  | a :: b :: rest =>
    if a ≠ '-' then none
    else if b = '-' then some (ofLong specs argument)
    else some (ofLetters specs (b :: rest))
  | _ => none

end Token

/-- Read arguments. Where options and other arguments do not mix, the first other argument ends
the options. -/
def readArguments (specs : List OptionSpec) (mixed : Bool) :
    List Text → Except ReadingFault Reading
  | [] => .ok {}
  | argument :: rest =>
    if argument = "--" then .ok { rest := rest }
    else match Token.of? specs argument with
      | none =>
        if mixed then
          (readArguments specs mixed rest).map fun r => { r with rest := argument :: r.rest }
        else .ok { rest := argument :: rest }
      | some (.error f) => .error f
      | some (.ok token) =>
        let given (r : Reading) : Reading := token.options.foldr (fun p r => r.add p.1 p.2) r
        match token.waiting, rest with
        | none, rest => (readArguments specs mixed rest).map given
        | some (name, _), [] => .error (.noArgument name)
        | some (_, o), value :: rest =>
          (readArguments specs mixed rest).map fun r => given (r.add o value)

end StepUp
