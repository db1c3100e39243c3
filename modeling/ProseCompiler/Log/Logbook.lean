import ProseCompiler.Log.Line
import ProseCompiler.Log.Rotation
import ProseCompiler.Text.Case

/-!
# The logbook

What becomes of records: which of them are written, and where to.  `Logbook.setUp` gives a logbook
the console and, if asked for, a log file.

Loggers form a tree by the dots in their names.  The logbook is that of the program's own logger
and those below it.  A record of another logger, or of any before the logbook was set up, finds no
sink; from warnings on its bare message goes to the console then.
-/

namespace ProseCompiler

/-! ## Loggers and levels -/

/-- The name of the program's own logger. -/
def mainLogger : Text := "gpt_compiler"

/-- The full name of a logger of the program. -/
def loggerName (name : Text) : Text :=
  if name = [] then mainLogger
  else if Text.startsWith name mainLogger then name
  else mainLogger ++ "." ++ name

/-- Whether a logger is the program's own or below it. -/
def isOwnLogger (name : Text) : Bool :=
  name == mainLogger || Text.startsWith name (mainLogger ++ ".")

/-- The level, as a number, that a logger needs if none was set. -/
def defaultThreshold : Int := Level.warning.number

/-- The number of a level that is given by a word; an unknown word means the level of general
information. -/
def thresholdOf (word : Text) : Except Fault Int :=
  let word := Text.upper word
  if word = "BASIC_FORMAT" then
    .error (.badValue ("Unknown level: " ++ Text.quoted "%(levelname)s:%(name)s:%(message)s"))
  else
    let known : List (Text × Int) :=
      [("NOTSET", 0), ("DEBUG", 10), ("INFO", 20), ("WARN", 30), ("WARNING", 30), ("ERROR", 40),
       ("FATAL", 50), ("CRITICAL", 50)]
    .ok ((known.lookup word).getD Level.info.number)

/-! ## Sinks -/

/-- How a sink writes its lines. -/
inductive LineForm where
  | plain (pattern : Text)
  | structured

/-- The line of a record. -/
def LineForm.line (form : LineForm) (moment : Moment) (document : Text) (r : Record) :
    Except Fault Text :=
  match form with
  | .plain pattern => r.plainLine pattern moment document
  | .structured => r.structuredLine moment document

/-- Where lines go. -/
inductive Sink where
  | console (form : LineForm)
  | file (path : Text) (form : LineForm)

/-- The least level that a sink takes. -/
def Sink.threshold : Sink → Int
  | .console _ => 0
  | .file .. => Level.debug.number

def Sink.form : Sink → LineForm
  | .console form | .file _ form => form

def consolePattern : Text := "%(levelname)-8s | %(message)s"

/-- The form of records for which no sink was set up. -/
def bareForm : LineForm := .plain "%(message)s"

def filePattern : Text :=
  "%(asctime)s | %(levelname)-8s | [%(document)s] | %(name)s:%(lineno)d | %(message)s"

/-! ## The logbook -/

/-- Which records are written, and where to.  A quiet logbook also silences the loggers of what
the program is built on. -/
structure Logbook where
  threshold : Int := 0
  sinks : List Sink := []
  isQuiet : Bool := false

namespace Logbook

/-- Whether a record of a logger with a level is written at all. -/
def admits (b : Logbook) (logger : Text) (level : Level) : Bool :=
  let threshold := if isOwnLogger logger ∧ b.threshold ≠ 0 then b.threshold else defaultThreshold
  threshold ≤ level.number

/-- The sinks that were set up for a logger. -/
def sinksOf (b : Logbook) (logger : Text) : List Sink :=
  if isOwnLogger logger then b.sinks else []

/-- The sinks that take a record.  If none was set up for its logger, the console takes it as a
last resort, provided that it is at least a warning. -/
def sinksFor (b : Logbook) (r : Record) : List Sink :=
  if b.admits r.logger r.level then
    match b.sinksOf r.logger with
    | [] => if defaultThreshold ≤ r.level.number then [.console bareForm] else []
    | sinks => sinks.filter fun sink => sink.threshold ≤ r.level.number
  else []

/-- The lines that a record puts on the console. -/
def consoleLines (b : Logbook) (moment : Moment) (document : Text) (r : Record) : List Text :=
  (b.sinksFor r).filterMap fun
    | .console form => (form.line moment document r).toOption
    | .file .. => none

/-- The tree after a record was written to the log files. -/
def writeFiles (b : Logbook) (moment : Moment) (document : Text) (r : Record) (tree : Tree) :
    Tree :=
  (b.sinksFor r).foldl
    (fun tree sink => match sink with
      | .console _ => tree
      | .file path form =>
        match form.line moment document r with
        | .ok line => LogFile.addLine path line tree
        | .error _ => tree)
    tree

/-- What a step of logging did: the logbook and the tree after it, the lines on the console, and
its fault. -/
structure Step where
  logbook : Logbook
  tree : Tree
  console : List Text := []
  fault : Option Fault := none

/-- Writes a record. -/
def write (b : Logbook) (moment : Moment) (document : Text) (r : Record) (tree : Tree) : Step :=
  { logbook := b, tree := b.writeFiles moment document r tree
    console := b.consoleLines moment document r }

/-- The path of a log file, made with the directories it needs. -/
def openFile (tree : Tree) (path : Text) : Tree × Except Fault Text :=
  let path := Path.ofText path
  match tree.provide path.parent with
  | (tree, .error fault) => (tree, .error fault)
  | (tree, .ok ()) =>
    let place := Location.text (Location.ofText tree.workingDirectory path.text)
    match tree.appendText place [] with
    | (tree, .error fault) => (tree, .error fault)
    | (tree, .ok ()) => (tree, .ok place)

/-- The record that starts a logbook. -/
def openingRecord (level : Text) (structured : Bool) : Record :=
  { logger := mainLogger, level := .debug, message := "Logging initialized"
    extra := [("log_level", .text level), ("json_logging", .bool structured)] }

/-- Sets a logbook up anew: its level, the console, and a log file if one is named.  If the log
file cannot be opened, the console stays. -/
def setUp (b : Logbook) (moment : Moment) (document level : Text) (file : Option Text)
    (structured : Bool) (tree : Tree) : Step :=
  match thresholdOf level with
  | .error fault => { logbook := b, tree, fault := some fault }
  | .ok threshold =>
    let form := fun (pattern : Text) => if structured then LineForm.structured else .plain pattern
    let console : Logbook :=
      { b with threshold, sinks := [.console (form consolePattern)] }
    let ready := fun (b : Logbook) (tree : Tree) =>
      { b with isQuiet := true }.write moment document (openingRecord level structured) tree
    match file with
    | none | some [] => ready console tree
    | some path =>
      match openFile tree path with
      | (tree, .error fault) => { logbook := console, tree, fault := some fault }
      | (tree, .ok place) =>
        ready { console with sinks := console.sinks ++ [.file place (form filePattern)] } tree

end Logbook

end ProseCompiler
