import ProseCompiler.CompilerError
import ProseCompiler.Log.Entry
import ProseCompiler.Log.Pattern

/-!
# Log records

A record is all that can be written about a report: its level and logger, where it was made, its
message with values for the places in it, what failed, and named values that belong to it.

Every part of a record is an attribute with a name.  The extra values are attributes too; one
that has the name of a part takes its place.
-/

namespace ProseCompiler

/-- Where a record was made: a source file, a line of it, and a function. -/
structure Origin where
  path : Option Text := some ""
  line : Int := 0
  function : Option Text := none

namespace Origin

/-- The last component of a source file. -/
def fileName (origin : Origin) : Option Text :=
  origin.path.map fun path => ((Text.splitOn '/' path).getLast?).getD []

/-- A file name without its last extension; dots at its start begin no extension. -/
def withoutExtension (name : Text) : Text :=
  match Text.cutAtLast? '.' name with
  | some (before, _) => if before.all fun (c : CodePoint) => c = '.' then name else before
  | none => name

/-- The module that a source file holds. -/
def moduleName (origin : Origin) : Text :=
  (origin.fileName.map withoutExtension).getD "Unknown module"

end Origin

/-- What a record says has failed: something that is not known, or a problem. -/
inductive Cause where
  | unknown
  | known (problem : Problem)

namespace Cause

/-- The kind of a problem, with the family it belongs to. -/
def qualifiedKind (problem : Problem) : Text :=
  match problem with
  | .reported error => "gpt_compiler.exceptions." ++ error.kind
  | _ => problem.kind

/-- A cause as one text. -/
def text : Cause → Text
  | .unknown => "NoneType: None"
  | .known problem =>
    qualifiedKind problem ++
      (if problem.message = [] then [] else (": " : Text) ++ problem.message)

/-- A cause as a value. -/
def value : Cause → Json
  | .unknown => .object [("type", .null), ("message", .null), ("traceback", .null)]
  | .known problem => .object
      [("type", .text problem.kind), ("message", .text problem.message),
       ("traceback", .array [.text (text (.known problem) ++ "\n")])]

end Cause

/-- A report with everything that can be written about it. -/
structure Record where
  logger : Text
  level : Level
  origin : Origin := {}
  message : Text
  arguments : List Json := []
  cause : Option Cause := none
  extra : List (Text × Json) := []

namespace Record

/-- The names that every record uses for its parts. -/
def partNames : List Text :=
  ["name", "msg", "args", "levelname", "levelno", "pathname", "filename", "module", "exc_info",
   "exc_text", "stack_info", "lineno", "funcName", "created", "msecs", "relativeCreated", "thread",
   "threadName", "processName", "process"]

def optional : Option Text → Json
  | some t => .text t
  | none => .null

/-- The parts of a record by name. -/
def parts (r : Record) : List (Text × Json) :=
  [("name", .text r.logger), ("msg", .text r.message), ("args", .array r.arguments),
   ("levelname", .text r.level.name), ("levelno", .integer r.level.number),
   ("pathname", optional r.origin.path), ("filename", optional r.origin.fileName),
   ("module", .text r.origin.moduleName), ("exc_text", .null), ("stack_info", .null),
   ("lineno", .integer r.origin.line), ("funcName", optional r.origin.function)]

/-- All attributes of a record. -/
def attributes (r : Record) : List (Text × Json) :=
  r.extra.foldl (fun fields (name, value) => Json.putField fields name value) r.parts

/-- The value of an attribute, null if there is none. -/
def value (r : Record) (name : Text) : Json := (Json.field? r.attributes name).getD .null

/-- The message with values in its places.  Without values its percent signs stand for
themselves; a single object that is not empty gives values by name. -/
def text (r : Record) : Except Fault Text :=
  let message := Pattern.display (r.value "msg")
  match r.arguments with
  | [] => .ok message
  | [.object (field :: fields)] => Pattern.fill message (.named (field :: fields))
  | values => Pattern.fill message (.listed values)

/-- The first extra name that a new record may not have. -/
def clash? (extra : List (Text × Json)) : Option Text :=
  (extra.map Prod.fst).find? (("message" :: "asctime" :: partNames : List Text).contains ·)

/-- The fault of an extra value that would hide a part of a new record. -/
def clashFault (name : Text) : Fault :=
  .raised "KeyError" (Text.quoted ("Attempt to overwrite " ++ Text.quoted name ++ " in LogRecord"))

/-- A record whose extra values hide none of its parts. -/
def checked (r : Record) : Except Fault Record :=
  match clash? r.extra with
  | some name => .error (clashFault name)
  | none => .ok r

end Record

/-- The record of an entry. -/
def Entry.record (entry : Entry) : Record :=
  { logger := entry.logger, level := entry.level, message := entry.message
    cause := entry.fault.map fun fault => .known (.unexpected fault)
    extra := entry.extra }

end ProseCompiler
