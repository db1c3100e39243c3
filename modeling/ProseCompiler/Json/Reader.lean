import ProseCompiler.Json.Value

/-!
# Reading JSON

The reader goes through the text once, from left to right, and refuses it at the first place
where nothing allowed can follow.  Beyond the standard it knows the three numbers that are not
finite, and lets a text hold a lone surrogate as an escape.  A fault names the place by its
position in the whole text.

Every call for a value, an item or a field takes one unit of fuel; a text of `n` code points
needs no more than `n + 1`.
-/

namespace ProseCompiler.Json

/-- Why a text is not read. -/
inductive ReadFault where
  | malformed (what : Text) (position : Nat)
  | tooManyDigits (count : Nat)
  | tooDeep (what : Text)
deriving DecidableEq, Repr

/-- A result, the position behind it, and what follows there. -/
abbrev Read (α : Type) := Except ReadFault (α × Nat × Text)

/-- A code point that may stand between the parts of a value. -/
def isGap (c : CodePoint) : Bool := c = ' ' || c = '\t' || c = '\n' || c = '\r'

/-- The place behind the gaps at `position`. -/
def skipGaps (position : Nat) : Text → Nat × Text
  | [] => (position, [])
  | c :: rest => if isGap c then skipGaps (position + 1) rest else (position, c :: rest)

/-! ## Strings -/

/-- The value of a hexadecimal digit. -/
def hexDigit? (c : CodePoint) : Option Nat :=
  let n := c.val
  if 0x30 ≤ n ∧ n ≤ 0x39 then some (n - 0x30)
  else if 0x61 ≤ n ∧ n ≤ 0x66 then some (n - 0x57)
  else if 0x41 ≤ n ∧ n ≤ 0x46 then some (n - 0x37)
  else none

/-- The number that four hexadecimal digits spell. -/
def hex4? (a b c d : CodePoint) : Option Nat :=
  match hexDigit? a, hexDigit? b, hexDigit? c, hexDigit? d with
  | some a, some b, some c, some d => some (((a * 16 + b) * 16 + c) * 16 + d)
  | _, _, _, _ => none

/-- The code point that a backslash and one more code point stand for. -/
def escape? (c : CodePoint) : Option CodePoint :=
  if c = '"' ∨ c = '\\' ∨ c = '/' then some c
  else if c = 'b' then some (CodePoint.ofNat 8)
  else if c = 'f' then some (CodePoint.ofNat 12)
  else if c = 'n' then some ('\n' : CodePoint)
  else if c = 'r' then some ('\r' : CodePoint)
  else if c = 't' then some ('\t' : CodePoint)
  else none

/-- The code point of a surrogate pair. -/
def paired (high low : Nat) : CodePoint :=
  CodePoint.ofNat (0x10000 + (high - 0xD800) * 0x400 + (low - 0xDC00))

/-- What an escape by number stands for, from the digits on; `position` is that of the backslash.
The second half of a pair has to be the next escape, and something has to follow either. -/
def numberedEscape (position : Nat) : Text → Except ReadFault (CodePoint × Nat)
  | a :: b :: c :: d :: after =>
    match hex4? a b c d with
    | none => .error (.malformed "Invalid \\uXXXX escape" (position + 1))
    | some n =>
      match after with
      | [] => .error (.malformed "Invalid \\uXXXX escape" (position + 1))
      | s :: u :: a :: b :: c :: d :: _ :: _ =>
        if 0xD800 ≤ n ∧ n < 0xDC00 ∧ s = '\\' ∧ u = 'u' then
          match hex4? a b c d with
          | none => .error (.malformed "Invalid \\uXXXX escape" (position + 7))
          | some m =>
            if 0xDC00 ≤ m ∧ m < 0xE000 then .ok (paired n m, 12) else .ok (CodePoint.ofNat n, 6)
        else .ok (CodePoint.ofNat n, 6)
      | _ :: _ => .ok (CodePoint.ofNat n, 6)
  | _ => .error (.malformed "Invalid \\uXXXX escape" (position + 1))

/-- The rest of a string that opened at `start`; `skipped` code points belong to an escape that
has been read. -/
def stringFrom (start position : Nat) (done : Text) : (skipped : Nat) → Text → Read Text
  | _, [] => .error (.malformed "Unterminated string starting at" start)
  | skipped + 1, _ :: rest => stringFrom start (position + 1) done skipped rest
  | 0, c :: rest =>
    if c = '"' then .ok (done.reverse, position + 1, rest)
    else if c.val < 0x20 then .error (.malformed "Invalid control character at" position)
    else if c = '\\' then
      match rest with
      | [] => .error (.malformed "Unterminated string starting at" start)
      | e :: after =>
        if e = 'u' then
          match numberedEscape position after with
          | .error fault => .error fault
          | .ok (x, width) => stringFrom start (position + 1) (x :: done) (width - 1) (e :: after)
        else
          match escape? e with
          | some x => stringFrom start (position + 1) (x :: done) 1 (e :: after)
          | none => .error (.malformed "Invalid \\escape" position)
    else stringFrom start (position + 1) (c :: done) 0 rest

/-! ## Numbers -/

/-- A numeral at the start of a text: its whole part with the sign, whether it is an integer, all
of it, and what follows. -/
structure Numeral where
  negative : Bool
  whole : Text
  isInteger : Bool
  all : Text
  rest : Text

/-- The fraction at the start of a text: a point with digits behind it. -/
def fraction : Text → Text
  | c :: rest =>
    if c = '.' then
      let digits := rest.takeWhile CodePoint.isDigit
      if digits.isEmpty then [] else c :: digits
    else []
  | [] => []

/-- The exponent at the start of a text: the letter, an optional sign, and digits. -/
def exponent : Text → Text
  | c :: rest =>
    if c = 'e' ∨ c = 'E' then
      let (mark, body) : Text × Text := match rest with
        | s :: body => if s = '+' ∨ s = '-' then ([s], body) else ([], rest)
        | [] => ([], [])
      let digits := body.takeWhile CodePoint.isDigit
      if digits.isEmpty then [] else c :: (mark ++ digits)
    else []
  | [] => []

/-- The numeral at the start of a text, if one stands there. -/
def numeral? (t : Text) : Option Numeral :=
  let (negative, body) : Bool × Text := match t with
    | c :: rest => if c = '-' then (true, rest) else (false, t)
    | [] => (false, [])
  let whole := match body with
    | c :: _ => if c = '0' then [c] else body.takeWhile CodePoint.isDigit
    | [] => []
  if whole.isEmpty then none
  else
    let afterWhole := body.drop whole.length
    let part := fraction afterWhole
    let power := exponent (afterWhole.drop part.length)
    let tail := part ++ power
    some {
      negative, whole
      isInteger := tail.isEmpty
      all := (if negative then ('-' : CodePoint) :: whole else whole) ++ tail
      rest := afterWhole.drop tail.length }

/-- The value of a numeral. -/
def Numeral.value (n : Numeral) : Except ReadFault Json :=
  if n.isInteger then
    if n.whole.length > Number.digitLimit then .error (.tooManyDigits n.whole.length)
    else
      let i : Int := Number.ofDigits (n.whole.map fun c => c.val - 0x30)
      .ok (.integer (if n.negative then -i else i))
  else .ok (.real ((Binary64.ofText? n.all).getD Binary64.nan))

/-! ## Values -/

/-- The values that are written as a word. -/
def words : List (Text × Json) :=
  [("null", .null), ("true", .bool true), ("false", .bool false), ("NaN", .real Binary64.nan),
   ("Infinity", .real (Binary64.infinity false)), ("-Infinity", .real (Binary64.infinity true))]

/-- The word or number at a position. -/
def scalarAt (position : Nat) (t : Text) : Read Json :=
  match words.findSome? fun (word, value) => (Text.afterStart? t word).map fun rest =>
      (value, position + word.length, rest) with
  | some found => .ok found
  | none =>
    match numeral? t with
    | none => .error (.malformed "Expecting value" position)
    | some n => n.value.map fun value => (value, position + n.all.length, n.rest)

/-- What a depth that runs out says. -/
def depthMessage (what : Text) : Text :=
  "maximum recursion depth exceeded while decoding a JSON " ++ what ++ " from a unicode string"

mutual

/-- The value at a position. -/
def valueAt : (fuel depth position : Nat) → Text → Read Json
  | 0, _, position, _ => .error (.malformed "Expecting value" position)
  | _ + 1, _, position, [] => .error (.malformed "Expecting value" position)
  | fuel + 1, depth, position, c :: rest =>
    if c = '"' then
      (stringFrom position (position + 1) [] 0 rest).map fun (t, after) => (.text t, after)
    else if c = '[' then
      match depth with
      | 0 => .error (.tooDeep (depthMessage "array"))
      | depth + 1 =>
        let (position, rest) := skipGaps (position + 1) rest
        match rest with
        | d :: after =>
          if d = ']' then .ok (.array [], position + 1, after)
          else itemsAt fuel depth position [] (d :: after)
        | [] => itemsAt fuel depth position [] []
    else if c = '\x7b' then
      match depth with
      | 0 => .error (.tooDeep (depthMessage "object"))
      | depth + 1 =>
        let (position, rest) := skipGaps (position + 1) rest
        match rest with
        | d :: after =>
          if d = '\x7d' then .ok (.object [], position + 1, after)
          else fieldsAt fuel depth position [] (d :: after)
        | [] => fieldsAt fuel depth position [] []
    else scalarAt position (c :: rest)

/-- The items of an array from a position on, behind the reversed items `done`. -/
def itemsAt : (fuel depth position : Nat) → (done : List Json) → Text → Read Json
  | 0, _, position, _, _ => .error (.malformed "Expecting value" position)
  | fuel + 1, depth, position, done, t =>
    match valueAt fuel depth position t with
    | .error fault => .error fault
    | .ok (value, position, rest) =>
      let (position, rest) := skipGaps position rest
      match rest with
      | c :: after =>
        if c = ']' then .ok (.array (value :: done).reverse, position + 1, after)
        else if c = ',' then
          let (position, rest) := skipGaps (position + 1) after
          itemsAt fuel depth position (value :: done) rest
        else .error (.malformed "Expecting ',' delimiter" position)
      | [] => .error (.malformed "Expecting ',' delimiter" position)

/-- The fields of an object from a position on, added to the fields `done`. -/
def fieldsAt : (fuel depth position : Nat) → (done : List (Text × Json)) → Text → Read Json
  | 0, _, position, _, _ => .error (.malformed "Expecting value" position)
  | fuel + 1, depth, position, done, t =>
    match t with
    | [] => .error (.malformed "Expecting property name enclosed in double quotes" position)
    | c :: rest =>
      if c = '"' then
        match stringFrom position (position + 1) [] 0 rest with
        | .error fault => .error fault
        | .ok (name, position, rest) =>
          let (position, rest) := skipGaps position rest
          match rest with
          | [] => .error (.malformed "Expecting ':' delimiter" position)
          | c :: rest =>
            if c = ':' then
              let (position, rest) := skipGaps (position + 1) rest
              match valueAt fuel depth position rest with
              | .error fault => .error fault
              | .ok (value, position, rest) =>
                let (position, rest) := skipGaps position rest
                match rest with
                | c :: after =>
                  if c = '\x7d' then .ok (.object (putField done name value), position + 1, after)
                  else if c = ',' then
                    let (position, rest) := skipGaps (position + 1) after
                    fieldsAt fuel depth position (putField done name value) rest
                  else .error (.malformed "Expecting ',' delimiter" position)
                | [] => .error (.malformed "Expecting ',' delimiter" position)
            else .error (.malformed "Expecting ':' delimiter" position)
      else .error (.malformed "Expecting property name enclosed in double quotes" position)

end

/-- How many arrays and objects may stand inside one another. -/
def depthLimit : Nat := 970

/-- The value that a whole text holds. -/
def read (t : Text) : Except ReadFault Json :=
  if t.head? = some (CodePoint.ofNat 0xFEFF) then
    .error (.malformed "Unexpected UTF-8 BOM (decode using utf-8-sig)" 0)
  else
    let (position, start) := skipGaps 0 t
    match valueAt (t.length + 1) depthLimit position start with
    | .error fault => .error fault
    | .ok (value, position, rest) =>
      match skipGaps position rest with
      | (_, []) => .ok value
      | (position, _ :: _) => .error (.malformed "Extra data" position)

/-! ## Faults as messages -/

/-- The line and the column of a position, both counted from one. -/
def lineAndColumn (t : Text) (position : Nat) : Nat × Nat :=
  let before := t.take position
  ((before.filter (· = Text.newline)).length + 1,
    (before.reverse.takeWhile (· ≠ Text.newline)).length + 1)

/-- What went wrong and where, for a text that was refused as malformed. -/
def malformedMessage (t what : Text) (position : Nat) : Text :=
  let (line, column) := lineAndColumn t position
  what ++ ": line " ++ Text.ofNat line ++ " column " ++ Text.ofNat column ++ " (char " ++
    Text.ofNat position ++ ")"

/-- What is said of an integer with too many digits. -/
def digitsMessage (count : Nat) : Text :=
  "Exceeds the limit (4300 digits) for integer string conversion: value has " ++
    Text.ofNat count ++ " digits; use sys.set_int_max_str_digits() to increase the limit"

end ProseCompiler.Json
