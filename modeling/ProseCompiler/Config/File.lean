import ProseCompiler.Config.Field
import ProseCompiler.Files.Operations
import ProseCompiler.Json.Reader

/-!
# Configuration files

A configuration file is a JSON object.  The fields that it names are set one after the other, in
the order in which their names first come; names of no field are passed over.  The first value
that does not fit ends the overlay, and what was set before it stays.
-/

namespace ProseCompiler.Config

/-- The problem of a value that does not fit. -/
def misfit (field : Field) (value : Json) : Field.Misfit → Problem
  | .wrongType =>
    .reported (.config ("Invalid value for " ++ field.name ++ " in config file: " ++ value.shown)
      (some field.name))
  | .overflow message => .unexpected (.overflow message)

/-- The configuration with the values of an object laid over it, and the problem that ended this
too early, if any. -/
def overlay (config : Config) : List (Text × Json) → Config × Option Problem
  | [] => (config, none)
  | (name, value) :: rest =>
    match Field.named? name with
    | none => overlay config rest
    | some field =>
      match field.coerce value with
      | .ok content => overlay (config.set field content) rest
      | .error reason => (config, some (misfit field value reason))

/-- An error about the file as a whole. -/
def fileError (message : Text) : Problem := .reported (.config message (some "config"))

/-- The object in the configuration file at a path. -/
def readFile (tree : Tree) (path : Text) : Except Problem (List (Text × Json)) :=
  let path := (Path.ofText path).text
  match tree.entryExists path with
  | .error fault => .error (.unexpected fault)
  | .ok false => .error (fileError ("Config file not found: " ++ path))
  | .ok true =>
    match tree.readText path with
    | .error fault => .error (.unexpected fault)
    | .ok text =>
      match Json.read text with
      | .error (.malformed what position) =>
        .error (fileError ("Invalid JSON in config file " ++ path ++ ": " ++
          Json.malformedMessage text what position))
      | .error (.tooManyDigits count) =>
        .error (.unexpected (.badValue (Json.digitsMessage count)))
      | .error (.tooDeep message) => .error (.unexpected (.tooDeep message))
      | .ok (.object fields) => .ok fields
      | .ok _ => .error (fileError ("Config file " ++ path ++ " must contain a JSON object"))

/-- The configuration with the file at a path laid over it. -/
def loadFile (config : Config) (tree : Tree) (path : Text) : Config × Option Problem :=
  match readFile tree path with
  | .error problem => (config, some problem)
  | .ok fields => config.overlay fields

end ProseCompiler.Config
