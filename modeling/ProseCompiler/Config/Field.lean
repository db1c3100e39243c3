import ProseCompiler.Config.Settings
import ProseCompiler.CompilerError

/-!
# The fields of the configuration

A field is named by a constructor; `Config.get` and `Config.set` read and write it, and each field
has a type of content of its own.  That a value fits a field is decided in one place, `coerce`.
-/

namespace ProseCompiler

/-- A field of the configuration. -/
inductive Field where
  | apiKey
  | model
  | apiUrl
  | referer
  | appTitle
  | requestTimeout
  | defaultLanguage
  | documentExtension
  | initialScan
  | maxConcurrent
  | verbose
  | logLevel
  | logFile
  | jsonLogs
deriving DecidableEq, Repr

namespace Field

/-- What a field holds. -/
abbrev Content : Field → Type
  | .apiKey | .logFile => Option Text
  | .requestTimeout => Option Binary64
  | .initialScan | .verbose | .jsonLogs => Bool
  | .maxConcurrent => Int
  | .model | .apiUrl | .referer | .appTitle | .defaultLanguage | .documentExtension | .logLevel =>
    Text

/-- The name of a field in files and messages. -/
def name : Field → Text
  | .apiKey => "api_key"
  | .model => "model"
  | .apiUrl => "api_url"
  | .referer => "referer"
  | .appTitle => "app_title"
  | .requestTimeout => "request_timeout"
  | .defaultLanguage => "default_language"
  | .documentExtension => "document_extension"
  | .initialScan => "initial_scan"
  | .maxConcurrent => "max_concurrent"
  | .verbose => "verbose"
  | .logLevel => "log_level"
  | .logFile => "log_file"
  | .jsonLogs => "json_logs"

def all : List Field :=
  [.apiKey, .model, .apiUrl, .referer, .appTitle, .requestTimeout, .defaultLanguage,
   .documentExtension, .initialScan, .maxConcurrent, .verbose, .logLevel, .logFile, .jsonLogs]

/-- The field of a name. -/
def named? (name : Text) : Option Field := all.find? fun field => field.name == name

end Field

namespace Config

/-- What a field of a configuration holds. -/
def get (config : Config) : (field : Field) → field.Content
  | .apiKey => config.apiKey
  | .model => config.model
  | .apiUrl => config.apiUrl
  | .referer => config.referer
  | .appTitle => config.appTitle
  | .requestTimeout => config.requestTimeout
  | .defaultLanguage => config.defaultLanguage
  | .documentExtension => config.documentExtension
  | .initialScan => config.initialScan
  | .maxConcurrent => config.maxConcurrent
  | .verbose => config.verbose
  | .logLevel => config.logLevel
  | .logFile => config.logFile
  | .jsonLogs => config.jsonLogs

/-- The configuration with another content of one field. -/
def set (config : Config) : (field : Field) → field.Content → Config
  | .apiKey, x => { config with apiKey := x }
  | .model, x => { config with model := x }
  | .apiUrl, x => { config with apiUrl := x }
  | .referer, x => { config with referer := x }
  | .appTitle, x => { config with appTitle := x }
  | .requestTimeout, x => { config with requestTimeout := x }
  | .defaultLanguage, x => { config with defaultLanguage := x }
  | .documentExtension, x => { config with documentExtension := x }
  | .initialScan, x => { config with initialScan := x }
  | .maxConcurrent, x => { config with maxConcurrent := x }
  | .verbose, x => { config with verbose := x }
  | .logLevel, x => { config with logLevel := x }
  | .logFile, x => { config with logFile := x }
  | .jsonLogs, x => { config with jsonLogs := x }

end Config

/-! ## Values for fields -/

namespace Field

/-- Whether a word switches something on. -/
def isOn (word : Text) : Bool :=
  let word := (Text.trim word).lower
  word == ("1" : Text) || word == ("true" : Text) || word == ("yes" : Text) ||
    word == ("on" : Text)

/-- Why a value does not go into a field. -/
inductive Misfit where
  | wrongType
  | overflow (message : Text)
deriving DecidableEq, Repr

def toFlag : Json → Except Misfit Bool
  | .bool b => .ok b
  | .text t => .ok (isOn t)
  | _ => .error .wrongType

/-- A whole number: a fraction is cut off, and a text is read as a numeral. -/
def toInteger : Json → Except Misfit Int
  | .integer i => .ok i
  | .real x =>
    match x.truncate? with
    | some i => .ok i
    | none =>
      if x.isNan then .error .wrongType
      else .error (.overflow "cannot convert float infinity to integer")
  | .text t =>
    match Number.integer? t with
    | some i => .ok i
    | none => .error .wrongType
  | _ => .error .wrongType

/-- A number of the binary format; a text is read as a decimal. -/
def toReal : Json → Except Misfit Binary64
  | .integer i =>
    match Binary64.ofInt? i with
    | some x => .ok x
    | none => .error (.overflow "int too large to convert to float")
  | .real x => .ok x
  | .text t =>
    match Binary64.ofText? t with
    | some x => .ok x
    | none => .error .wrongType
  | _ => .error .wrongType

def toText : Json → Except Misfit Text
  | .text t => .ok t
  | _ => .error .wrongType

def toOptionalText : Json → Except Misfit (Option Text)
  | .null => .ok none
  | .text t => .ok (some t)
  | _ => .error .wrongType

/-- A value as the content of a field. -/
def coerce : (field : Field) → Json → Except Misfit field.Content
  | .apiKey, v => toOptionalText v
  | .logFile, v => toOptionalText v
  | .requestTimeout, v => (toReal v).map some
  | .initialScan, v => toFlag v
  | .verbose, v => toFlag v
  | .jsonLogs, v => toFlag v
  | .maxConcurrent, v => toInteger v
  | .model, v => toText v
  | .apiUrl, v => toText v
  | .referer, v => toText v
  | .appTitle, v => toText v
  | .defaultLanguage, v => toText v
  | .documentExtension, v => toText v
  | .logLevel, v => toText v

/-- The text of a variable as the content of a field, if it spells one. -/
def ofVariable : (field : Field) → Text → Option field.Content
  | .apiKey, t => some (some t)
  | .logFile, t => some (some t)
  | .requestTimeout, t => (Binary64.ofText? t).map some
  | .initialScan, t => some (isOn t)
  | .verbose, t => some (isOn t)
  | .jsonLogs, t => some (isOn t)
  | .maxConcurrent, t => Number.integer? t
  | .model, t => some t
  | .apiUrl, t => some t
  | .referer, t => some t
  | .appTitle, t => some t
  | .defaultLanguage, t => some t
  | .documentExtension, t => some t
  | .logLevel, t => some t

end Field

end ProseCompiler
