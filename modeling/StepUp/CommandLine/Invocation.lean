import StepUp.CommandLine.DryRun

/-!
# Invocations

What the arguments of the program ask for. The path of the configuration file may also come from
the environment; it must not lead to a directory.
-/

namespace StepUp

inductive Invocation where
  | help (c : CommandSpec)
  | version
  | validate (path : Text)
  | listMethods (path : Text) (asJson : Bool)
  | resolve (path : Text) (d : DryRun)

/-- Why nothing is done: the arguments of a command are wrong, or it was called without any. -/
inductive Refusal where
  | usage (c : CommandSpec) (f : UsageFault)
  | bare (c : CommandSpec)

/-- What besides the arguments decides what they mean. -/
structure ArgumentScope where
  /-- The path that the environment names. -/
  configPath : Option Text
  isDirectory : Text → Bool

namespace Invocation

/-- The path of the configuration file that is needed. -/
def configPath? : Invocation → Option Text
  | .help _ | .version => none
  | .validate path | .listMethods path _ | .resolve path _ => some path

def refuse {α : Type} (c : CommandSpec) (f : UsageFault) : Except Refusal α := .error (.usage c f)

def readFor (c : CommandSpec) (mixed : Bool) (arguments : List Text) : Except Refusal Reading :=
  (readArguments c.allOptions mixed arguments).mapError fun f => .usage c (.reading f)

/-- The path of the configuration file. -/
def pathOf (s : ArgumentScope) (c : CommandSpec) (r : Reading) : Except Refusal Text :=
  let o := CommandSpec.pathOption
  match (r.value? o.long).or (s.configPath.filter fun p => !p.isEmpty) with
  | none => refuse c (.noOption o)
  | some path =>
    if !path.isEmpty && s.isDirectory path then refuse c (.isDirectory o path) else .ok path

/-- An invocation of a command that works on a configuration. -/
def ofCommand (s : ArgumentScope) (c : CommandSpec) (make : Text → Reading → Invocation)
    (arguments : List Text) : Except Refusal Invocation := do
  let r ← readFor c true arguments
  if r.isGiven CommandSpec.helpOption.long then return .help c
  let path ← pathOf s c r
  if !r.rest.isEmpty then refuse c (.leftOver r.rest)
  return make path r

def ofValidate (s : ArgumentScope) : List Text → Except Refusal Invocation :=
  ofCommand s .validate fun path _ => .validate path

def ofMethods (s : ArgumentScope) : List Text → Except Refusal Invocation :=
  ofCommand s .methods fun path r => .listMethods path (r.isGiven CommandSpec.jsonOption.long)

def ofResolve (s : ArgumentScope) : List Text → Except Refusal Invocation :=
  ofCommand s .resolve fun path r => .resolve path
    { service := r.value? CommandSpec.serviceOption.long
      method := r.value? CommandSpec.methodOption.long
      principal := r.value? CommandSpec.principalOption.long
      attributes := r.values CommandSpec.attributeOption.long }

/-- Find out why a word that is no command is none. If it looks like an option, it is read as one
before. -/
def ofUnknown (c : CommandSpec) (word : Text) (arguments : List Text) :
    Except Refusal Invocation := do
  let r ← readFor c false (if word.head? = some (CodePoint.ofChar '-') then word :: arguments else [])
  if r.isGiven CommandSpec.helpOption.long then return .help c
  let names := c.subcommands.map Prod.fst
  refuse c (.unknownCommand word (Text.similarTo word names))

def ofConfig (s : ArgumentScope) (arguments : List Text) : Except Refusal Invocation := do
  if arguments.isEmpty then .error (.bare .config)
  let r ← readFor .config false arguments
  if r.isGiven CommandSpec.helpOption.long then return .help .config
  match r.rest with
  | [] => refuse .config .noCommand
  | word :: rest =>
    if word = "validate" then ofValidate s rest else ofUnknown .config word rest

/-- What the arguments ask for. -/
def ofArguments (s : ArgumentScope) (arguments : List Text) : Except Refusal Invocation := do
  let r ← readFor .program false arguments
  if r.isGiven CommandSpec.helpOption.long then return .help .program
  let version := r.isGiven CommandSpec.versionOption.long
  match r.rest with
  | [] => return if version then .version else .help .program
  | word :: rest =>
    let command? : Option (List Text → Except Refusal Invocation) :=
      if word = "config" then some (ofConfig s)
      else if word = "methods" then some (ofMethods s)
      else if word = "resolve" then some (ofResolve s)
      else none
    match command? with
    | none => ofUnknown .program word rest
    | some command => if version then return .version else command rest

end Invocation

end StepUp
