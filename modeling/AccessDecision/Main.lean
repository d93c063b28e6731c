import AccessDecision.CommandLine.Run

/-!
# The program

The files that the arguments name are read first and the environment after them; everything else is
`CommandLine.run`.
-/

namespace AccessDecision.CommandLine

/-- What stands at a path on disk. -/
def entryAt (path : String) : IO FileEntry := do
  try return .file (← IO.FS.readBinFile path)
  catch
    | .noFileOrDirectory .. => return .missing
    | _ => return .unreadable

/-- The paths that arguments name. -/
def pathsOf (args : List String) : List String :=
  match Arguments.read args with
  | .error _ => []
  | .ok args =>
    let policies := match args.command with
      | .decide args => args.policies
      | .check policies => policies
    [args.config.getD systemSettingsPath, policies]

/-- The variables of the settings that are set. -/
def readEnvironment : IO Environment := do
  let values ← [defaultModeVariable, logLevelVariable, logFormatVariable].mapM fun name =>
    return (name, (← IO.getEnv name).map String.toUTF8)
  return fun name => (values.lookup name).join

end AccessDecision.CommandLine

open AccessDecision.CommandLine in
/-- Runs the program on its arguments. -/
def main (args : List String) : IO UInt32 := do
  let entries ← (pathsOf args).mapM fun path => return (path, ← entryAt path)
  let environment ← readEnvironment
  let outcome := run (fun path => (entries.lookup path).getD .missing) environment args
  IO.print outcome.output
  IO.eprint outcome.diagnostics
  return outcome.exitCode
