import ProseCompiler.Fault
import ProseCompiler.Json.Value

/-!
# Errors of the compiler

Every failure that the compiler expects, by its cause.  The code says which stage failed, the
message says how, and the details repeat the cause for programs that read it.
-/

namespace ProseCompiler

/-- A failure that the compiler expects. -/
inductive CompilerError where
  | general (message code : Text) (details : List (Text × Json))
  | config (message : Text) (setting : Option Text)
  | unreadable (path reason : Text)
  | unwritable (path reason : Text)
  | documentExists (path : Text)
  | service (message : Text) (status : Option Int) (body : Text)
  | responseShape (message : Text) (keys : Option (List Text))
  | emptyArtifact (language : Option Text)
  | watcherState (state action : Text)

namespace CompilerError

def kind : CompilerError → Text
  | .general .. => "GptCompilerError"
  | .config .. => "ConfigError"
  | .unreadable .. => "DocumentReadError"
  | .unwritable .. => "ArtifactWriteError"
  | .documentExists .. => "DocumentExistsError"
  | .service .. => "ServiceError"
  | .responseShape .. => "ResponseShapeError"
  | .emptyArtifact .. => "EmptyArtifactError"
  | .watcherState .. => "WatcherStateError"

/-- The code of the stage that failed. -/
def code : CompilerError → Text
  | .general _ code _ => code
  | .config .. => "CONFIG_ERROR"
  | .unreadable .. => "READ_ERROR"
  | .unwritable .. => "WRITE_ERROR"
  | .documentExists .. => "DOCUMENT_EXISTS"
  | .service .. => "SERVICE_ERROR"
  | .responseShape .. => "RESPONSE_SHAPE_ERROR"
  | .emptyArtifact .. => "EMPTY_ARTIFACT"
  | .watcherState .. => "WATCHER_STATE"

/-- The code of what nothing else describes. -/
def internalCode : Text := "INTERNAL_ERROR"

def message : CompilerError → Text
  | .general message _ _ => message
  | .config message _ => message
  | .unreadable path reason => "Failed to read document " ++ path ++ ": " ++ reason
  | .unwritable path reason => "Failed to write artifact " ++ path ++ ": " ++ reason
  | .documentExists path => "File already exists: " ++ path
  | .service message _ _ => message
  | .responseShape message _ => message
  | .emptyArtifact _ => "Empty code was generated"
  | .watcherState state action => "Cannot " ++ action ++ " watcher in state '" ++ state ++ "'"

/-- A text as a detail, unless it is missing or empty. -/
def optionalDetail (name : Text) : Option Text → List (Text × Json)
  | none | some [] => []
  | some value => [(name, .text value)]

/-- The cause as named values. -/
def details : CompilerError → List (Text × Json)
  | .general _ _ details => details
  | .config _ setting => optionalDetail "setting" setting
  | .unreadable path _ | .unwritable path _ | .documentExists path => [("path", .text path)]
  | .service _ status body =>
    [("status_code", (status.map Json.integer).getD .null), ("body", .text body)]
  | .responseShape _ keys =>
    match keys with
    | none => []
    | some keys => [("keys", .array (keys.map Json.text))]
  | .emptyArtifact language => optionalDetail "language" language
  | .watcherState state action => [("state", .text state), ("action", .text action)]

/-- What is said of an answer that has none of the known shapes. -/
def unknownShape : Text := "No recognized content format in the response"

end CompilerError

/-- Why an operation ended without a result: an error the compiler expects, a fault that it does
not expect, or a request to stop. -/
inductive Problem where
  | reported (error : CompilerError)
  | unexpected (fault : Fault)
  | interrupted (message : Text)

namespace Problem

def kind : Problem → Text
  | .reported error => error.kind
  | .unexpected fault => fault.kind
  | .interrupted _ => "KeyboardInterrupt"

def message : Problem → Text
  | .reported error => error.message
  | .unexpected fault => fault.message
  | .interrupted message => message

end Problem

end ProseCompiler
