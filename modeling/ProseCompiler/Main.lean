import ProseCompiler.CommandLine.Program
import Std.Time.DateTime

/-!
# The command line

The program as a process.  The files below the working directory, and below the places that
arguments name absolutely, are read into a tree, and so are the environment files above the
program; the session runs on that tree; what it changed is written back, and its outputs are
printed.  No transport is built in, so the service cannot be reached and a document that is sent
comes back as a failure.  A session that watches stops as soon as it has started.
-/

namespace ProseCompiler.Main

/-! ## Texts -/

/-- A text for the terminal; what no character stands for becomes a replacement character. -/
def shown (t : Text) : String :=
  String.ofList (t.map fun c => if c.isSurrogate then '\uFFFD' else Char.ofNat c.val)

/-- The place that an absolute path spells. -/
def placeOf (path : String) : Location := Location.ofText [] path

/-! ## Files -/

/-- What stands at a path, links followed. -/
def kindOf (path : String) : IO (Option IO.FS.FileType) :=
  (do return some (← (← IO.FS.realPath path).metadata).type) <|> pure none

/-- The entries at a place and below it. -/
partial def entriesAt (path : String) : IO (List (Location × Node)) := do
  let place := placeOf path
  match ← kindOf path with
  | some .file => return [(place, .file (← IO.FS.readBinFile path).toList)]
  | some .dir => do
    let mut entries := [(place, Node.directory)]
    for child in ← (← IO.FS.realPath path).readDir do
      let below := path ++ "/" ++ child.fileName
      match (← child.path.symlinkMetadata).type with
      | .symlink =>
        let target ← IO.FS.realPath child.path
        entries := entries ++ [(placeOf below, .link (target.toString : String))]
      | _ => entries := entries ++ (← entriesAt below)
    return entries
  | _ => return []

/-- The places above a place, below the root. -/
def above (place : Location) : List Location :=
  (List.range place.length).tail.map fun n => place.take n

/-- The place of the program. -/
def programPlace : IO Location := do
  return (placeOf (← IO.appPath).toString).dropLast

/-- The paths at which a session looks for an environment file. -/
def environmentFiles (program : Location) : List String :=
  ([] :: above program ++ [program]).map fun place =>
    shown (Location.text (place ++ [Environment.fileName]))

/-- The part of the file system that a session can need. -/
def readTree (arguments : List String) : IO Tree := do
  let here := (← IO.currentDir).toString
  let files ← (environmentFiles (← programPlace)).filterM fun path =>
    return (← kindOf path) == some .file
  let places := here :: files ++ arguments.filter fun argument => argument.startsWith "/"
  let mut tree : Tree := ⟨[], placeOf here⟩
  for place in places do
    for directory in above (placeOf place) do
      if (← kindOf (shown (Location.text directory))) == some .dir then
        tree := tree.put directory .directory
    for (location, node) in ← entriesAt place do
      tree := tree.put location node
  return tree

/-- Writes what a session has changed. -/
def writeChanges (before after : Tree) : IO Unit := do
  for (place, node) in after.entries do
    if before.node? place ≠ some node then
      let path := shown (Location.text place)
      match node with
      | .directory => IO.FS.createDirAll path
      | .file content => IO.FS.writeBinFile path ⟨content.toArray⟩
      | .link _ => pure ()
  for (place, node) in before.entries do
    match node with
    | .file _ => if after.node? place = none then IO.FS.removeFile (shown (Location.text place))
    | _ => pure ()

/-! ## Surroundings -/

/-- The variables that a session can ask for. -/
def readEnvironment : IO Environment := do
  let names := "PYTHON_DOTENV_DISABLED" ::
    Environment.fieldVariables.map fun (name, _) => shown name
  names.filterMapM fun name => do
    return (← IO.getEnv name).map fun value => (name, value)

/-- A number with at least so many digits. -/
def digits (width : Nat) (n : Int) : Text := Text.padLeft width '0' (Number.ofInt n)

/-- The moment of a number of milliseconds since the beginning of 1970, in universal time. -/
def momentAt (milliseconds : Int) : Moment :=
  let day := Std.Time.PlainDate.ofEpochDay ⟨milliseconds / 86400000⟩
  let rest := milliseconds % 86400000
  let date := digits 4 day.year ++ "-" ++ digits 2 day.month.val ++ "-" ++ digits 2 day.day.val
  let clock := digits 2 (rest / 3600000) ++ ":" ++ digits 2 (rest / 60000 % 60) ++ ":" ++
    digits 2 (rest / 1000 % 60)
  let fraction := digits 3 (rest % 1000)
  { plain := date ++ " " ++ clock ++ "," ++ fraction
    structured := date ++ "T" ++ clock ++ "." ++ fraction ++ "000+00:00" }

/-- What a session of this process is given. -/
def readSurroundings : IO Surroundings := do
  let now ← Std.Time.Timestamp.now
  return {
    environment := ← readEnvironment
    service := fun _ _ => .unreachable "ConnectError" "no transport is built in"
    moment := momentAt now.toMillisecondsSinceUnixEpoch.val
    milliseconds := 0
    program := ← programPlace
    console := Console.utf8 }

end ProseCompiler.Main

open ProseCompiler in
/-- The program: exits with the status of its session, or with 1 after a problem that escapes. -/
def main (arguments : List String) : IO UInt32 := do
  let before ← Main.readTree arguments
  let surroundings ← Main.readSurroundings
  let (ending, session) := Session.run surroundings before (arguments.map Text.ofString)
  Main.writeChanges before session.tree
  IO.print (Main.shown session.output)
  IO.eprint (Main.shown session.errors)
  match ending with
  | .status code => return code.toUInt32
  | .escaped problem =>
    IO.eprintln (Main.shown (problem.kind ++ ": " ++ problem.message))
    return 1
