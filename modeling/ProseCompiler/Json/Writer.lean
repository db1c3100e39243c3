import ProseCompiler.Fault
import ProseCompiler.Json.Value

/-!
# Writing JSON

Two styles: `compact` for what is sent, with no blanks and with every code point that may stand
for itself, and `ascii` for log lines, with a blank behind commas and colons and everything beyond
the printable ASCII characters escaped.

An interpreter has no room for arrays and objects that stand too deep inside one another, and it
does not spell out integers that are too long.  `writeWithin` is a writer with these bounds, and
`write` is one without.
-/

namespace ProseCompiler.Json

/-- What differs between the ways of writing JSON. -/
structure Style where
  comma : Text
  colon : Text
  keepsWide : Bool

def compact : Style := ⟨",", ":", true⟩

def ascii : Style := ⟨", ", ": ", false⟩

/-- An escape by number. -/
def numbered (n : Nat) : Text := "\\u" ++ Text.hex 4 n

/-- A code point inside a string. -/
def escaped (keepsWide : Bool) (c : CodePoint) : Text :=
  if c = '"' then "\\\""
  else if c = '\\' then "\\\\"
  else if c = '\n' then "\\n"
  else if c = '\r' then "\\r"
  else if c = '\t' then "\\t"
  else if c.val = 8 then "\\b"
  else if c.val = 12 then "\\f"
  else if c.val < 0x20 then numbered c.val
  else if c.val < 0x7F ∨ keepsWide = true then [c]
  else if c.val < 0x10000 then numbered c.val
  else
    numbered (0xD800 + (c.val - 0x10000) / 0x400) ++ numbered (0xDC00 + (c.val - 0x10000) % 0x400)

/-- A string with its quotes. -/
def writeText (style : Style) (t : Text) : Text :=
  "\"" ++ t.flatMap (escaped style.keepsWide) ++ "\""

/-- A number of the binary format. -/
def writeReal (x : Binary64) : Text :=
  match x.view with
  | .nan => "NaN"
  | .infinite negative => if negative then "-Infinity" else "Infinity"
  | .finite .. => x.text

mutual

/-- The text of a value. -/
def write (style : Style) : Json → Text
  | .null => "null"
  | .bool true => "true"
  | .bool false => "false"
  | .integer i => Number.ofInt i
  | .real x => writeReal x
  | .text t => writeText style t
  | .array items => "[" ++ writeItems style items ++ "]"
  | .object fields => "\x7b" ++ writeFields style fields ++ "\x7d"

/-- The items of an array. -/
def writeItems (style : Style) : List Json → Text
  | [] => []
  | [item] => write style item
  | item :: rest => write style item ++ style.comma ++ writeItems style rest

/-- The fields of an object. -/
def writeFields (style : Style) : List (Text × Json) → Text
  | [] => []
  | [(name, value)] => writeText style name ++ style.colon ++ write style value
  | (name, value) :: rest =>
    writeText style name ++ style.colon ++ write style value ++ style.comma ++
      writeFields style rest

end

/-! ## Bounds -/

mutual

/-- What a writer stumbles over first that has room for `depth` arrays and objects inside one
another. -/
def hindrance? : (depth : Nat) → Json → Option Fault
  | _, .integer i =>
    if (Text.ofNat i.natAbs).length > Number.digitLimit then
      some (.badValue ("Exceeds the limit (4300 digits) for integer string conversion; " ++
        "use sys.set_int_max_str_digits() to increase the limit"))
    else none
  | 0, .array _ | 0, .object _ =>
    some (.tooDeep "maximum recursion depth exceeded while encoding a JSON object")
  | depth + 1, .array items => hindranceInItems? depth items
  | depth + 1, .object fields => hindranceInFields? depth fields
  | _, _ => none

def hindranceInItems? (depth : Nat) : List Json → Option Fault
  | [] => none
  | item :: rest => (hindrance? depth item).or (hindranceInItems? depth rest)

def hindranceInFields? (depth : Nat) : List (Text × Json) → Option Fault
  | [] => none
  | (_, value) :: rest => (hindrance? depth value).or (hindranceInFields? depth rest)

end

/-- The text of a value, by a writer that has room for `limit` arrays and objects inside one
another. -/
def writeWithin (limit : Nat) (style : Style) (value : Json) : Except Fault Text :=
  match hindrance? limit value with
  | some fault => .error fault
  | none => .ok (write style value)

end ProseCompiler.Json
