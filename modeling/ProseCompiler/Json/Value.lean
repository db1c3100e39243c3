import ProseCompiler.Number.Binary64
import ProseCompiler.Text.Quoted

/-!
# JSON values

The values that requests, answers, configuration files and structured log lines are made of.
Integers have any size and are apart from the other numbers.  The fields of an object keep the
order in which their names first came, and no name comes twice in an object that was read.
-/

namespace ProseCompiler

/-- A JSON value. -/
inductive Json where
  | null
  | bool (b : Bool)
  | integer (i : Int)
  | real (x : Binary64)
  | text (t : Text)
  | array (items : List Json)
  | object (fields : List (Text × Json))
deriving Inhabited

namespace Json

/-- The fields with one more: a name that is there already keeps its place and takes the new
value. -/
def putField (fields : List (Text × Json)) (name : Text) (value : Json) : List (Text × Json) :=
  if fields.any fun (n, _) => n == name then
    fields.map fun (n, v) => if n = name then (n, value) else (n, v)
  else fields ++ [(name, value)]

/-- The value of a field. -/
def field? (fields : List (Text × Json)) (name : Text) : Option Json := fields.lookup name

/-- The value of a field of an object; nothing else has fields. -/
def get? (name : Text) : Json → Option Json
  | .object fields => field? fields name
  | _ => none

/-- The word for a value's type. -/
def typeName : Json → Text
  | .null => "NoneType"
  | .bool _ => "bool"
  | .integer _ => "int"
  | .real _ => "float"
  | .text _ => "str"
  | .array _ => "list"
  | .object _ => "dict"

/-- Whether a value counts as something: not null, false, zero or empty. -/
def isSomething : Json → Bool
  | .null => false
  | .bool b => b
  | .integer i => i != 0
  | .real x => x.isNonZero
  | .text t => !t.isEmpty
  | .array items => !items.isEmpty
  | .object fields => !fields.isEmpty

mutual

/-- The value as a message shows it. -/
def shown : Json → Text
  | .null => "None"
  | .bool true => "True"
  | .bool false => "False"
  | .integer i => Number.ofInt i
  | .real x => x.text
  | .text t => Text.quoted t
  | .array items => "[" ++ shownItems items ++ "]"
  | .object fields => "\x7b" ++ shownFields fields ++ "\x7d"

/-- The items of an array with commas between them. -/
def shownItems : List Json → Text
  | [] => []
  | [item] => shown item
  | item :: rest => shown item ++ ", " ++ shownItems rest

/-- The fields of an object with commas between them. -/
def shownFields : List (Text × Json) → Text
  | [] => []
  | [(name, value)] => Text.quoted name ++ ": " ++ shown value
  | (name, value) :: rest => Text.quoted name ++ ": " ++ shown value ++ ", " ++ shownFields rest

end

end Json

end ProseCompiler
