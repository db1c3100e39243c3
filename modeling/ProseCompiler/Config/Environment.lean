import ProseCompiler.Config.EnvFile
import ProseCompiler.Config.Field
import ProseCompiler.Files.Operations

/-!
# The environment

Fields that are set by variables.  An environment file adds the variables that the environment
does not have; an empty variable counts as one that is not there.  The file is named, or it is the
nearest one from the place of the program upwards.
-/

namespace ProseCompiler

/-- The variables of a process. -/
abbrev Environment := List (Text × Text)

namespace Environment

/-- The variables that set a field, in the order in which they are looked at. -/
def fieldVariables : List (Text × Field) :=
  [("OPENROUTER_API_KEY", .apiKey), ("AI_MODEL", .model),
   ("DEFAULT_OUTPUT_LANG", .defaultLanguage), ("GPT_COMPILER_API_URL", .apiUrl),
   ("GPT_COMPILER_TIMEOUT", .requestTimeout), ("GPT_COMPILER_MAX_CONCURRENT", .maxConcurrent),
   ("GPT_COMPILER_LOG_LEVEL", .logLevel), ("GPT_COMPILER_LOG_FILE", .logFile),
   ("GPT_COMPILER_JSON_LOGS", .jsonLogs), ("GPT_COMPILER_VERBOSE", .verbose)]

/-- The value of a variable, unless it is empty. -/
def value? (environment : Environment) (name : Text) : Option Text :=
  (environment.lookup name).filter fun value => !value.isEmpty

/-- Sets the fields of the variables that are there; the first one that does not spell a value
ends this. -/
def apply (environment : Environment) (config : Config) :
    List (Text × Field) → Except CompilerError Config
  | [] => .ok config
  | (name, field) :: rest =>
    match environment.value? name with
    | none => apply environment config rest
    | some value =>
      match field.ofVariable value with
      | some content => apply environment (config.set field content) rest
      | none =>
        .error (.config ("Invalid value for " ++ name ++ ": " ++ Text.quoted value)
          (some field.name))

/-- Whether the environment forbids environment files. -/
def forbidsFiles (environment : Environment) : Bool :=
  match List.lookup ("PYTHON_DOTENV_DISABLED" : Text) environment with
  | none => false
  | some value =>
    (["1", "true", "t", "yes", "y"] : List Text).contains (Text.lower value)

/-- The environment with the values that it does not have; a value that no environment can hold is
refused. -/
def extend : Environment → EnvFile.Values → Except Fault Environment
  | environment, [] => .ok environment
  | environment, (name, value) :: rest =>
    match environment.lookup name, value with
    | none, some value =>
      if name.contains ('=' : CodePoint) then .error (.badValue "illegal environment variable name")
      else if (name ++ value).any fun c => c.val == 0 then .error .embeddedNul
      else extend (environment ++ [(name, value)]) rest
    | _, _ => extend environment rest

/-- The environment extended by the file at a path; a path without a file adds nothing, but a text
that cannot be a path is refused. -/
def withFile (environment : Environment) (tree : Tree) (path : Option Text) :
    Except Fault Environment :=
  match path with
  | none | some [] => .ok environment
  | some path =>
    if environment.forbidsFiles then .ok environment
    else
      match tree.status true path with
      | .ok (_, .file _) =>
        match tree.readText path with
        | .error fault => .error fault
        | .ok text => environment.extend (EnvFile.expand environment (EnvFile.bindings text))
      | .ok _ | .error (.system ..) => .ok environment
      | .error fault => .error fault

/-- The name of the environment files that are looked for. -/
def fileName : Text := ".env"

/-- The nearest environment file at a place or above it, given by the names from the last to the
first. -/
def nearest? (tree : Tree) (reversed : List Text) : Option Text :=
  let path := Location.text (reversed.reverse ++ [fileName])
  if tree.hasFile path then some path
  else
    match reversed with
    | [] => none
    | _ :: above => nearest? tree above

/-- The environment file of a program that stands at a place: the one that is named, or else the
nearest one. -/
def fileOf? (tree : Tree) (program : Location) : (named : Option Text) → Option Text
  | some path => some path
  | none => nearest? tree program.reverse

end Environment

namespace Config

/-- The defaults with what the environment and the environment file of the program set. -/
def load (environment : Environment) (tree : Tree) (envFile : Option Text)
    (program : Location := []) : Except Problem Config :=
  match environment.withFile tree (Environment.fileOf? tree program envFile) with
  | .error fault => .error (.unexpected fault)
  | .ok environment =>
    match environment.apply {} Environment.fieldVariables with
    | .error error => .error (.reported error)
    | .ok config => .ok config

end Config

end ProseCompiler
