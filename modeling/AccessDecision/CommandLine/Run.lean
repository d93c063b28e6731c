import AccessDecision.CommandLine.Arguments
import AccessDecision.CommandLine.Attributes
import AccessDecision.CommandLine.Document
import AccessDecision.Pattern.Size
import AccessDecision.Service.Run

/-!
# Running a command

`run` is the whole program as a function of what stands at each path, of the environment and of the arguments.

* `decide` decides one query and prints the decision as pretty JSON.  The query comes from the service `cli` and
  the subject's principal has the attributes given as arguments.
* `check` prints for each service how many policies it has, and under it the unknown functions of each policy.

Settings are loaded before either command starts, so settings that cannot be loaded end both.
-/

namespace AccessDecision.CommandLine

/-- Why a command fails. -/
inductive CommandError where
  | settings (error : SettingsError)
  | document (error : DocumentError)
  | assignment (error : AttributeError)
  | decision (error : DecisionError)
  deriving DecidableEq, Repr

/-- The error in words. -/
def CommandError.message : CommandError → String
  | settings error => error.message
  | document error => error.message
  | assignment error => error.message
  | decision _ => "decision failed"

/-- The error behind a failed decision. Behind a document that fails there is the reason that the reader or the
parser gives as well, which is printed below the message and left out here. -/
def CommandError.cause? : CommandError → Option String
  | decision error => some error.message
  | _ => none

/-- What a run comes to. -/
inductive Outcome where
  | printed (text : String)
  | wrongUsage
  | failed (error : CommandError)
  deriving DecidableEq, Repr

namespace Outcome

/-- The exit code of the program. -/
def exitCode : Outcome → UInt32
  | printed _ => 0
  | failed _ => 1
  | wrongUsage => 2

/-- What is printed as the result. -/
def output : Outcome → String
  | printed text => text
  | _ => ""

/-- What is printed as the error. -/
def diagnostics : Outcome → String
  | printed _ => ""
  | wrongUsage => "error: wrong usage\n\nFor more information, try '--help'.\n"
  | failed error =>
    "Error: " ++ error.message
      ++ (match error.cause? with
        | some cause => "\n\nCaused by:\n    " ++ cause
        | none => "") ++ "\n"

end Outcome

/-- The name of the program with its version. -/
def versionText : String := "warden 0.1.0\n"

/-- The help text. -/
def helpText : String :=
  "Authorization decisions from a policy document\n\n"
    ++ "Usage: warden [OPTIONS] <COMMAND>\n\n"
    ++ "Commands:\n"
    ++ "  decide  Evaluate one query and print the decision as JSON\n"
    ++ "  check   Parse a policy document and report what it contains\n"
    ++ "  help    Print this message\n"

/-- The outcome of arguments that ask for no command. -/
def Refusal.outcome : Refusal → Outcome
  | usage => .wrongUsage
  | help => .printed helpText
  | version => .printed versionText

/-! ### Commands -/

variable [PatternLimit]

/-- The decision about the query of the arguments. -/
def decide (settings : Settings) (document : PolicyDocument) (args : DecideArguments) :
    Except CommandError Decision := do
  let principal ← (SessionPrincipal.ofAssignments args.subject args.attributes).mapError CommandError.assignment
  let state := (ServiceState.ofDocument document).apply (.startSession args.subject principal)
  let query : Query := ⟨args.service, "cli", args.resource, args.action, args.subject⟩
  ((state.point settings.decision.defaultMode).decide query).mapError CommandError.decision

/-- A decision as it is printed. -/
def decisionText (decision : Decision) : String := Datum.Json.pretty decision.toDatum ++ "\n"

/-- The lines about the unknown functions of a policy. -/
def policyLines (policy : Policy) : List String :=
  policy.unrecognizedIds.map fun function => s!"  {policy.policyId}: unrecognized function '{function}'"

/-- The lines about a service. -/
def serviceLines (service : String) (policies : List Policy) : List String :=
  s!"{service}: {policies.length} policies" :: policies.flatMap policyLines

/-- The lines about a document. -/
def checkLines (document : PolicyDocument) : List String :=
  document.services.flatMap fun (service, policies) => serviceLines service policies

/-- Lines as they are printed. -/
def linesText (lines : List String) : String := String.join (lines.map (· ++ "\n"))

/-- The text that a command prints. -/
def commandText (entry : String → FileEntry) (settings : Settings) : Command → Except CommandError String
  | .decide args => do
    let document ← (PolicyDocument.load args.policies (entry args.policies)).mapError CommandError.document
    return decisionText (← decide settings document args)
  | .check policies => do
    let document ← (PolicyDocument.load policies (entry policies)).mapError CommandError.document
    return linesText (checkLines document)

/-- The settings that apply: those of the file and the environment, with the level that the arguments give. -/
def Arguments.settings (args : Arguments) (entry : String → FileEntry) (environment : Environment) :
    Except SettingsError Settings := do
  let path := args.config.getD systemSettingsPath
  let settings ← Settings.load path (entry path) environment
  return { settings with
    logging := { settings.logging with level := args.logLevel.getD settings.logging.level } }

/-- The text that arguments with a command print. -/
def Arguments.text (args : Arguments) (entry : String → FileEntry) (environment : Environment) :
    Except CommandError String := do
  let settings ← (args.settings entry environment).mapError CommandError.settings
  commandText entry settings args.command

/-- Runs the program. -/
def run (entry : String → FileEntry) (environment : Environment) (args : List String) : Outcome :=
  match Arguments.read args with
  | .error refusal => refusal.outcome
  | .ok args =>
    match args.text entry environment with
    | .ok text => .printed text
    | .error error => .failed error

end AccessDecision.CommandLine
