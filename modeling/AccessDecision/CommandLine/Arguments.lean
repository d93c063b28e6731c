/-!
# Arguments

The program has two commands, `decide` and `check`, with options before and behind them.  An option that takes a
value is written `--name value`, `--name=value`, `-n value`, `-nvalue` or `-n=value`.  A value in an argument of
its own must not look like an option.
-/

namespace AccessDecision.CommandLine

/-- The options. -/
inductive Flag where
  | config
  | logLevel
  | policies
  | service
  | resource
  | action
  | attr
  | subject
  | help
  | version
  deriving DecidableEq, Repr

namespace Flag

/-- The long name of an option. -/
def long : Flag → String
  | config => "config"
  | logLevel => "log-level"
  | policies => "policies"
  | service => "service"
  | resource => "resource"
  | action => "action"
  | attr => "attr"
  | subject => "subject"
  | help => "help"
  | version => "version"

/-- The letter of an option. -/
def short? : Flag → Option Char
  | config => some 'c'
  | logLevel => some 'l'
  | policies => some 'p'
  | service => some 's'
  | resource => some 'r'
  | attr => some 'a'
  | help => some 'h'
  | version => some 'V'
  | action | subject => none

/-- The options of the program as a whole. -/
def ofProgram : List Flag := [config, logLevel, help, version]

/-- The options of `decide`. -/
def ofDecide : List Flag := [policies, service, resource, action, attr, subject, config, logLevel, help]

/-- The options of `check`. -/
def ofCheck : List Flag := [policies, config, logLevel, help]

end Flag

/-- Why the arguments ask for no command. -/
inductive Refusal where
  /-- They are wrong. -/
  | usage
  /-- They ask for the help text. -/
  | help
  /-- They ask for the version. -/
  | version
  deriving DecidableEq, Repr

/-- The options that were given, in order. -/
abbrev Given := List (Flag × String)

/-- Whether the value of an option is a path, which must not be empty. -/
def Flag.isPath : Flag → Bool
  | .config | .policies => true
  | _ => false

/-- Adds an option with its value. Only attributes may be repeated. -/
def Given.add (given : Given) (flag : Flag) (value : String) : Except Refusal Given :=
  if flag.isPath && value.isEmpty then .error .usage
  else if flag != .attr && given.any (·.1 == flag) then .error .usage
  else .ok (given ++ [(flag, value)])

/-- The value of an option. -/
def Given.value? (given : Given) (flag : Flag) : Option String := given.lookup flag

/-- The values of an option that may be repeated. -/
def Given.values (given : Given) (flag : Flag) : List String := (given.filter (·.1 == flag)).map (·.2)

/-- An argument by its form. -/
inductive Argument where
  /-- Two hyphens, and nothing else. -/
  | escape
  | option (flag : Option Flag) (value : Option String)
  | other

/-- What follows an equals sign at the start, or the whole row. -/
def withoutEquals : List Char → List Char
  | '=' :: rest => rest
  | cs => cs

/-- The value that is attached to the letter of an option. -/
def attached (cs : List Char) : Option String :=
  if cs.isEmpty then none else some (String.ofList (withoutEquals cs))

/-- Reads an argument, with the options that are known. -/
def Argument.of (flags : List Flag) (arg : String) : Argument :=
  match arg.toList with
  | ['-', '-'] => .escape
  | '-' :: '-' :: name =>
    let (name, value) := name.span (· != '=')
    .option (flags.find? (·.long.toList == name)) (match value with
      | [] => none
      | _ :: value => some (String.ofList value))
  | '-' :: letter :: value => .option (flags.find? (·.short? == some letter)) (attached value)
  | _ => .other

/-- Whether an argument cannot be the value of the option before it. -/
def looksLikeOption (arg : String) : Bool :=
  match arg.toList with
  | '-' :: _ :: _ => true
  | _ => false

/-- Reads options up to the first argument that is none. Two hyphens may only stand at the end. -/
def options (flags : List Flag) (given : Given) : List String → Except Refusal (Given × List String)
  | [] => .ok (given, [])
  | arg :: rest =>
    match Argument.of flags arg with
    | .other => .ok (given, arg :: rest)
    | .escape => if rest.isEmpty then .ok (given, []) else .error .usage
    | .option none _ => .error .usage
    | .option (some .help) value => .error (if value.isSome && arg.startsWith "--" then .usage else .help)
    | .option (some .version) value => .error (if value.isSome && arg.startsWith "--" then .usage else .version)
    | .option (some flag) (some value) => do options flags (← given.add flag value) rest
    | .option (some flag) none =>
      match rest with
      | [] => .error .usage
      | value :: rest =>
        if looksLikeOption value then .error .usage
        else do options flags (← given.add flag value) rest

/-- Reads options and nothing else. -/
def onlyOptions (flags : List Flag) (args : List String) : Except Refusal Given := do
  let (given, rest) ← options flags [] args
  if rest.isEmpty then return given else throw .usage

/-- What `decide` is asked. -/
structure DecideArguments where
  policies : String
  service : String
  resource : String
  action : Option String
  attributes : List String
  subject : String
  deriving Repr

/-- A command with its arguments. -/
inductive Command where
  | decide (args : DecideArguments)
  | check (policies : String)
  deriving Repr

/-- All that the arguments say. -/
structure Arguments where
  config : Option String
  logLevel : Option String
  command : Command
  deriving Repr

/-- The value of an option that must be given. -/
def Given.require (given : Given) (flag : Flag) : Except Refusal String :=
  match given.value? flag with
  | some value => .ok value
  | none => .error .usage

/-- The subject unless one is given. -/
def defaultSubject : String := "cli"

/-- The options of `decide`. -/
def DecideArguments.ofGiven (given : Given) : Except Refusal DecideArguments := do
  return {
    policies := ← given.require .policies
    service := ← given.require .service
    resource := ← given.require .resource
    action := given.value? .action
    attributes := given.values .attr
    subject := (given.value? .subject).getD defaultSubject }

/-- The arguments with a command. What is given behind the command counts. -/
def Arguments.of (before behind : Given) (command : Command) : Arguments where
  config := (behind.value? .config).or (before.value? .config)
  logLevel := (behind.value? .logLevel).or (before.value? .logLevel)
  command := command

/-- Reads the arguments of the program. -/
def Arguments.read (args : List String) : Except Refusal Arguments := do
  let (before, rest) ← options Flag.ofProgram [] args
  match rest with
  | "decide" :: rest =>
    let behind ← onlyOptions Flag.ofDecide rest
    return .of before behind (.decide (← DecideArguments.ofGiven behind))
  | "check" :: rest =>
    let behind ← onlyOptions Flag.ofCheck rest
    return .of before behind (.check (← behind.require .policies))
  | ["help"] | ["help", "decide"] | ["help", "check"] | ["help", "help"] => throw .help
  | _ => throw .usage

end AccessDecision.CommandLine
