import ProseCompiler.Json.Value
import ProseCompiler.Text.Case

/-!
# The configuration

Everything that can be set, with its default.  Where the values come from is a matter of other
modules.
-/

namespace ProseCompiler

/-- How the compiler works: the generation service, the defaults of documents, watching, and
logging. -/
structure Config where
  apiKey : Option Text := none
  model : Text := "anthropic/claude-3-opus-20240229"
  apiUrl : Text := "https://openrouter.ai/api/v1/chat/completions"
  referer : Text := "https://github.com/KaiStephens/aiCompiler"
  appTitle : Text := "AI GPT Compiler"
  /-- How long to wait for an answer, in seconds; without a value, for ever. -/
  requestTimeout : Option Binary64 := some ⟨0x4072C00000000000⟩
  defaultLanguage : Text := "javascript"
  documentExtension : Text := ".gpt"
  initialScan : Bool := true
  /-- How many documents are compiled at a time; zero for no bound. -/
  maxConcurrent : Int := 4
  verbose : Bool := false
  logLevel : Text := "INFO"
  logFile : Option Text := none
  jsonLogs : Bool := false
deriving DecidableEq, Repr

namespace Config

/-- The level that log entries need; everything is logged in verbose mode. -/
def effectiveLogLevel (config : Config) : Text :=
  if config.verbose then "DEBUG" else config.logLevel.upper

/-- A key of which only the first four characters are shown. -/
def masked (key : Text) : Text := if key = [] then [] else key.take 4 ++ "***"

/-- The fields of the configuration by name. -/
def fields (config : Config) : List (Text × Json) :=
  let optional : Option Text → Json
    | some t => .text t
    | none => .null
  [("api_key", optional config.apiKey), ("model", .text config.model),
   ("api_url", .text config.apiUrl), ("referer", .text config.referer),
   ("app_title", .text config.appTitle),
   ("request_timeout", match config.requestTimeout with
     | some x => .real x
     | none => .null),
   ("default_language", .text config.defaultLanguage),
   ("document_extension", .text config.documentExtension),
   ("initial_scan", .bool config.initialScan), ("max_concurrent", .integer config.maxConcurrent),
   ("verbose", .bool config.verbose), ("log_level", .text config.logLevel),
   ("log_file", optional config.logFile), ("json_logs", .bool config.jsonLogs)]

/-- The configuration with its key masked, for showing. -/
def withMaskedKey (config : Config) : Config := { config with apiKey := config.apiKey.map masked }

end Config

end ProseCompiler
