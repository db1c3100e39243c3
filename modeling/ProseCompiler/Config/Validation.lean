import ProseCompiler.Config.Field

/-!
# Valid configurations

What has to hold of a configuration before anything is compiled with it.
-/

namespace ProseCompiler.Config

/-- The first thing that is wrong with a configuration. -/
def flaw? (config : Config) : Option CompilerError :=
  let keyMissing := match config.apiKey with
    | none | some [] => true
    | some _ => false
  let waitsNot := match config.requestTimeout with
    | some x => x.isNonPositive
    | none => false
  if keyMissing then
    some (.config "OPENROUTER_API_KEY is not set in your environment or .env file" (some "api_key"))
  else if config.model = [] then some (.config "AI model must not be empty" (some "model"))
  else if waitsNot then
    some (.config "request_timeout must be positive" (some "request_timeout"))
  else if config.maxConcurrent < 0 then
    some (.config "max_concurrent must be >= 0" (some "max_concurrent"))
  else if config.documentExtension.head? ≠ some ('.' : CodePoint) then
    some (.config "document_extension must start with '.'" (some "document_extension"))
  else none

/-- Refuses a configuration with anything wrong. -/
def validate (config : Config) : Except CompilerError Unit :=
  match config.flaw? with
  | some error => .error error
  | none => .ok ()

end ProseCompiler.Config
