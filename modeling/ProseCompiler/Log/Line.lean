import ProseCompiler.Json.Writer
import ProseCompiler.Log.Record

/-!
# Log lines

A record is written as plain text, after a pattern whose places are named for the attributes of
the record, or as one line of JSON.  Both know the document that is being compiled, and the
moment at which they write.
-/

namespace ProseCompiler

/-- A moment as plain and as structured lines write it. -/
structure Moment where
  plain : Text
  structured : Text

namespace Record

/-! ## Plain lines -/

/-- What plain lines show where no document is being compiled. -/
def noDocument : Text := "-"

/-- The attributes that plain lines can show. -/
def plainFields (moment : Moment) (document : Text) (r : Record) :
    Except Fault (List (Text × Json)) :=
  let shown := if document = [] then noDocument else document
  r.text.map fun message =>
    [("document", .text shown), ("message", .text message), ("asctime", .text moment.plain)].foldl
      (fun fields (name, value) => Json.putField fields name value) r.attributes

/-- A text with another one on a line of its own. -/
def withLine (t more : Text) : Text :=
  if t.getLast? = some Text.newline then t ++ more else t ++ [Text.newline] ++ more

/-- The text of what failed: the one that the record brings along, or that of its cause. -/
def failureText? (r : Record) : Option Text :=
  let given := r.value "exc_text"
  if given.isSomething then some (Pattern.display given) else r.cause.map Cause.text

/-- The pattern itself if it can be one for plain lines; the empty one shows the message. -/
def plainPattern (pattern : Text) : Except Fault Text :=
  let pattern : Text := if pattern = [] then "%(message)s" else pattern
  if Pattern.hasNamedPlace pattern then .ok pattern
  else .error (.badValue ("Invalid format '" ++ pattern ++ "' for '%' style"))

/-- A fault of a pattern, as a fault of the line it is for. -/
def patternFault : Fault → Fault
  | .raised kind message =>
    if kind = "KeyError" then .badValue ("Formatting field not found in record: " ++ message)
    else .raised kind message
  | fault => fault

/-- The record after a pattern, followed by what failed. -/
def plainLine (pattern : Text) (moment : Moment) (document : Text) (r : Record) :
    Except Fault Text := do
  let fields ← r.plainFields moment document
  let line ← (Pattern.fill pattern (.named fields)).mapError patternFault
  let line := match r.failureText? with
    | some failure => withLine line failure
    | none => line
  let stack := r.value "stack_info"
  .ok (if stack.isSomething then withLine line (Pattern.display stack) else line)

/-! ## Structured lines -/

/-- The names of attributes that structured lines do not show as extra values. -/
def reservedNames : List Text := partNames ++ (["message", "taskName", "document"] : List Text)

/-- Whether an extra value is shown. -/
def isShown (name : Text) : Bool := !reservedNames.contains name && !Text.startsWith name "_"

/-- The fields of a structured line that every record has. -/
def coreFields (moment : Moment) (document message : Text) (r : Record) : List (Text × Json) :=
  let own : List (Text × Json) :=
    [("timestamp", .text moment.structured), ("level", r.value "levelname"),
     ("logger", r.value "name"), ("message", .text message), ("module", r.value "module"),
     ("function", r.value "funcName"), ("line", r.value "lineno")]
  let place : List (Text × Json) := if document = [] then [] else [("document", .text document)]
  let failure : List (Text × Json) := match r.cause with
    | some cause => [("exception", cause.value)]
    | none => []
  own ++ place ++ failure

/-- The fields of a structured line. -/
def structuredFields (moment : Moment) (document : Text) (r : Record) :
    Except Fault (List (Text × Json)) :=
  r.text.map fun message =>
    (r.extra.filter fun (name, _) => isShown name).foldl
      (fun fields (name, value) => Json.putField fields name value)
      (r.coreFields moment document message)

/-- The record as one line of JSON, by a writer without bounds. -/
def structuredLine (moment : Moment) (document : Text) (r : Record) : Except Fault Text :=
  (r.structuredFields moment document).map fun fields => Json.write Json.ascii (.object fields)

/-- The same line by a writer that has room for `limit` objects and arrays inside one another. -/
def structuredLineWithin (limit : Nat) (moment : Moment) (document : Text) (r : Record) :
    Except Fault Text :=
  (r.structuredFields moment document).bind fun fields =>
    Json.writeWithin limit Json.ascii (.object fields)

end Record

end ProseCompiler
