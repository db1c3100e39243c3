import ProseCompiler.CommandLine.Invocation
import ProseCompiler.Config.Environment
import ProseCompiler.Config.File

/-!
# From a command line to a configuration

The environment comes first, then the configuration file, then the options.  Options without a
text count for nothing, and switches can only switch on.
-/

namespace ProseCompiler.Invocation

/-- An option's text, unless it is empty. -/
def given? : Option Text → Option Text
  | some (c :: t) => some (c :: t)
  | _ => none

/-- The configuration with the options laid over it. -/
def withOptions (invocation : Invocation) (config : Config) : Config :=
  let config := match given? invocation.model with
    | some model => config.set .model model
    | none => config
  let config := if invocation.verbose then config.set .verbose true else config
  let config := match given? invocation.logFile with
    | some path => config.set .logFile (some path)
    | none => config
  if invocation.jsonLogs then config.set .jsonLogs true else config

/-- The configuration that a command line works with. -/
def configuration (invocation : Invocation) (environment : Environment) (tree : Tree)
    (program : Location := []) : Except Problem Config :=
  match Config.load environment tree invocation.envFile program with
  | .error problem => .error problem
  | .ok config =>
    match given? invocation.configFile with
    | none => .ok (invocation.withOptions config)
    | some path =>
      match config.loadFile tree path with
      | (_, some problem) => .error problem
      | (config, none) => .ok (invocation.withOptions config)

end ProseCompiler.Invocation
