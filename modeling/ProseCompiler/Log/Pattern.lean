import ProseCompiler.Fault
import ProseCompiler.Json.Value
import ProseCompiler.Number.Decimal

/-!
# Patterns

A pattern is a text with places for values.  A place is a percent sign, a name in round brackets
if the values have names, and a directive: flags, a width, a precision, and a letter that says how
the value is written.

`Pattern.fill` works through a pattern from left to right, so the first place that cannot be
filled decides the fault.
-/

namespace ProseCompiler

/-- The values of a pattern: one after the other, or by name. -/
inductive Arguments where
  | listed (values : List Json)
  | named (fields : List (Text × Json))

namespace Pattern

/-- The values that are left: those that come next, and those that have names. -/
structure Supply where
  next : List Json
  fields? : Option (List (Text × Json))

/-- All the values.  Named values also count as a single one. -/
def Supply.ofArguments : Arguments → Supply
  | .listed values => ⟨values, none⟩
  | .named fields => ⟨[.object fields], some fields⟩

/-- How a value is set in its place. -/
structure Directive where
  toLeft : Bool := false
  showsPlus : Bool := false
  showsBlank : Bool := false
  alternate : Bool := false
  zeros : Bool := false
  width : Nat := 0
  precision? : Option Nat := none

/-! ## Faults -/

def wrongType (message : Text) : Fault := .raised "TypeError" message

def missingValue : Fault := wrongType "not enough arguments for format string"

def unknownLetter (letter : CodePoint) (position : Nat) : Fault :=
  .badValue ("unsupported format character '" ++
    [if 31 ≤ letter.val ∧ letter.val < 127 then letter else ('?' : CodePoint)] ++ "' (0x" ++
    Text.ofNatBase 16 letter.val ++ ") at index " ++ Text.ofNat position)

/-- The next value. -/
def Supply.take (supply : Supply) : Except Fault (Json × Supply) :=
  match supply.next with
  | [] => .error missingValue
  | value :: rest => .ok (value, { supply with next := rest })

/-! ## Setting a value in its place -/

/-- A text in its place, with spaces around it. -/
def Directive.place (d : Directive) (t : Text) : Text :=
  if d.toLeft then Text.padRight d.width t else Text.padLeft d.width ' ' t

/-- A number in its place: zeros that fill it stand between the sign and the digits. -/
def Directive.placeNumber (d : Directive) (negative : Bool) (start digits : Text) : Text :=
  let sign : Text :=
    if negative then "-" else if d.showsPlus then "+" else if d.showsBlank then " " else ""
  if d.zeros && !d.toLeft then
    sign ++ start ++ Text.padLeft (d.width - sign.length - start.length) '0' digits
  else d.place (sign ++ start ++ digits)

/-- A text cut to the precision. -/
def Directive.cut (d : Directive) (t : Text) : Text :=
  match d.precision? with
  | some n => t.take n
  | none => t

/-! ## Values as texts and numbers -/

/-- A value as a text: texts stand for themselves. -/
def display : Json → Text
  | .text t => t
  | value => value.shown

/-- A value as it is shown, in ASCII. -/
def displayAscii (value : Json) : Text :=
  value.shown.flatMap fun c => if c.val < 0x80 then [c] else c.numbered

/-- The integer that a value is. -/
def integer? : Json → Option Int
  | .integer i => some i
  | .bool b => some (if b then 1 else 0)
  | _ => none

/-- The integer that a value becomes without its fraction. -/
def truncated (letter : CodePoint) (value : Json) : Except Fault Int :=
  match integer? value, value with
  | some i, _ => .ok i
  | none, .real x =>
    match x.truncate? with
    | some i => .ok i
    | none =>
      if x.isNan then .error (.badValue "cannot convert float NaN to integer")
      else .error (.overflow "cannot convert float infinity to integer")
  | none, _ =>
    .error (wrongType ("%" ++ [letter] ++ " format: a real number is required, not " ++
      value.typeName))

/-- The integer that a value has to be. -/
def whole (letter : CodePoint) (value : Json) : Except Fault Int :=
  match integer? value with
  | some i => .ok i
  | none =>
    .error (wrongType ("%" ++ [letter] ++ " format: an integer is required, not " ++
      value.typeName))

/-- The number of the binary format that a value is. -/
def real (value : Json) : Except Fault Binary64 :=
  match integer? value, value with
  | some i, _ =>
    match Binary64.ofInt? i with
    | some x => .ok x
    | none => .error (.overflow "int too large to convert to float")
  | none, .real x => .ok x
  | none, _ => .error (wrongType ("must be real number, not " ++ value.typeName))

/-- The single code point that a value is. -/
def single (value : Json) : Except Fault Text :=
  match integer? value, value with
  | some i, _ =>
    if 0 ≤ i ∧ i < 0x110000 then .ok [CodePoint.ofNat i.toNat]
    else .error (.overflow "%c arg not in range(0x110000)")
  | none, .text [c] => .ok [c]
  | none, _ => .error (wrongType "%c requires int or char")

/-- An integer in a base, in its place. -/
def Directive.placeInteger (d : Directive) (i : Int) (start : Text) (digits : Nat → Text) : Text :=
  d.placeNumber (i < 0) (if d.alternate then start else [])
    (Text.padLeft ((d.precision?).getD 0) '0' (digits i.natAbs))

/-- A number of the binary format in its place, written by a given function of the precision, the
significand and the exponent. -/
def Directive.placeReal (d : Directive) (x : Binary64) (write : Nat → Nat → Int → Text) : Text :=
  match x.view with
  | .nan => d.placeNumber false [] "nan"
  | .infinite negative => d.placeNumber negative [] "inf"
  | .finite negative m e => d.placeNumber negative [] (write ((d.precision?).getD 6) m e)

/-- A value in its place, written as a letter says. -/
def Directive.write (d : Directive) (letter : CodePoint) (position : Nat) (value : Json) :
    Except Fault Text :=
  let lower := (Text.lowerAscii [letter]).headD letter
  let cased := fun (t : Text) => if lower = letter then t else Text.upperAscii t
  if letter = 's' then .ok (d.place (d.cut (display value)))
  else if letter = 'r' then .ok (d.place (d.cut value.shown))
  else if letter = 'a' then .ok (d.place (d.cut (displayAscii value)))
  else if letter = 'c' then (single value).map d.place
  else if letter = 'd' ∨ letter = 'i' ∨ letter = 'u' then
    (truncated letter value).map fun i => d.placeInteger i [] Text.ofNat
  else if letter = 'o' then
    (whole letter value).map fun i => d.placeInteger i "0o" (Text.ofNatBase 8)
  else if lower = 'x' then
    (whole letter value).map fun i => cased (d.placeInteger i "0x" (Text.ofNatBase 16))
  else if lower = 'f' then
    (real value).map fun x => cased (d.placeReal x (Binary64.fixed d.alternate))
  else if lower = 'e' then
    (real value).map fun x => cased (d.placeReal x (Binary64.scientific d.alternate))
  else if lower = 'g' then
    (real value).map fun x => cased (d.placeReal x (Binary64.general d.alternate))
  else .error (unknownLetter letter position)

/-! ## Reading a place -/

/-- A name in brackets, which may hold brackets in pairs, and what follows it. -/
def name? : (depth : Nat) → Text → Option (Text × Text)
  | _, [] => none
  | depth, c :: rest =>
    if c = ')' then
      match depth with
      | 0 => some ([], rest)
      | depth + 1 => (name? depth rest).map fun (name, rest) => (c :: name, rest)
    else
      (name? (if c = '(' then depth + 1 else depth) rest).map fun (name, rest) => (c :: name, rest)

/-- A name at the start of a place, with the value it stands for as the only one left. -/
def readName (supply : Supply) : Text → Except Fault (Supply × Text)
  | [] => .ok (supply, [])
  | c :: rest =>
    if c = '(' then
      match supply.fields? with
      | none => .error (wrongType "format requires a mapping")
      | some fields =>
        match name? 0 rest with
        | none => .error (.badValue "incomplete format key")
        | some (name, rest) =>
          match fields.lookup name with
          | none => .error (.raised "KeyError" (Text.quoted name))
          | some value => .ok ({ supply with next := [value] }, rest)
    else .ok (supply, c :: rest)

/-- The flags at the start of a directive. -/
def readFlags (d : Directive) : Text → Directive × Text
  | [] => (d, [])
  | c :: rest =>
    if c = '-' then readFlags { d with toLeft := true } rest
    else if c = '+' then readFlags { d with showsPlus := true } rest
    else if c = ' ' then readFlags { d with showsBlank := true } rest
    else if c = '#' then readFlags { d with alternate := true } rest
    else if c = '0' then readFlags { d with zeros := true } rest
    else (d, c :: rest)

/-- The bound of a size: how large it may be, and what is said of a larger one, written in digits or
taken from a value. -/
structure SizeBound where
  limit : Nat
  excess : Text
  valueExcess : Text

def widthBound : SizeBound :=
  ⟨0x7FFFFFFFFFFFFFFF, "width too big", "Python int too large to convert to C ssize_t"⟩

def precisionBound : SizeBound :=
  ⟨0x7FFFFFFF, "precision too big", "Python int too large to convert to C int"⟩

/-- A size at the start of a text: digits, none if there are none, or a star for the next value. -/
def readSize (supply : Supply) (bound : SizeBound) (t : Text) :
    Except Fault (Int × Supply × Text) :=
  match t with
  | [] => .ok (0, supply, [])
  | c :: rest =>
    if c = '*' then
      match supply.take with
      | .error fault => .error fault
      | .ok (value, supply) =>
        match integer? value with
        | none => .error (wrongType "* wants int")
        | some i =>
          if i.natAbs ≤ bound.limit then .ok (i, supply, rest)
          else .error (.overflow bound.valueExcess)
    else
      let digits := t.takeWhile CodePoint.isDigit
      let n := Number.ofDigits (digits.map fun c => c.val - 0x30)
      if n > bound.limit then .error (.badValue bound.excess)
      else .ok (n, supply, t.drop digits.length)

/-- The width and the precision of a directive. -/
def readSizes (d : Directive) (supply : Supply) (t : Text) :
    Except Fault (Directive × Supply × Text) := do
  let (width, supply, t) ← readSize supply widthBound t
  let d := { d with width := width.natAbs, toLeft := d.toLeft || decide (width < 0) }
  match t with
  | c :: rest =>
    if c = '.' then do
      let (precision, supply, t) ← readSize supply precisionBound rest
      .ok ({ d with precision? := some precision.toNat }, supply, t)
    else .ok (d, supply, t)
  | [] => .ok (d, supply, [])

/-- A place behind its percent sign, filled, with what is left.  `size` is the length of the whole
pattern. -/
def fillPlace (size : Nat) (supply : Supply) (t : Text) : Except Fault (Text × Supply × Text) := do
  let (supply, t) ← readName supply t
  let (d, t) := readFlags {} t
  let (d, supply, t) ← readSizes d supply t
  let t := match t with
    | c :: rest => if c = 'h' ∨ c = 'l' ∨ c = 'L' then rest else c :: rest
    | [] => []
  match t with
  | [] => .error (.badValue "incomplete format")
  | letter :: rest =>
    let (value, supply) ← supply.take
    let written ← d.write letter (size - rest.length - 1) value
    .ok (written, supply, rest)

/-! ## Filling a pattern -/

/-- `fill` from somewhere inside a pattern, with the length of the rest as fuel. -/
def fillFrom (size : Nat) : (fuel : Nat) → Supply → Text → Except Fault (Text × Supply)
  | 0, supply, _ => .ok ([], supply)
  | fuel + 1, supply, t =>
    let plain := t.takeWhile fun (c : CodePoint) => c ≠ '%'
    match t.drop plain.length with
    | [] => .ok (plain, supply)
    | _ :: rest =>
      if rest.head? = some ('%' : CodePoint) then
        (fillFrom size fuel supply (rest.drop 1)).map fun (filled, supply) =>
          (plain ++ ("%" ++ filled), supply)
      else
        match fillPlace size supply rest with
        | .error fault => .error fault
        | .ok (written, supply, rest) =>
          (fillFrom size fuel supply rest).map fun (filled, supply) =>
            (plain ++ (written ++ filled), supply)

/-- The pattern with values in its places.  Values without names have to be used up. -/
def fill (pattern : Text) (arguments : Arguments) : Except Fault Text :=
  match fillFrom pattern.length (pattern.length + 1) (Supply.ofArguments arguments) pattern with
  | .error fault => .error fault
  | .ok (filled, supply) =>
    if !supply.next.isEmpty && supply.fields?.isNone then
      .error (wrongType "not all arguments converted during string formatting")
    else .ok filled

/-! ## Patterns with names -/

/-- A text without the size at its start. -/
def withoutSize : Text → Text
  | [] => []
  | c :: rest => if c = '*' then rest else (c :: rest).dropWhile CodePoint.isDigit

/-- A text without the precision at its start. -/
def withoutPrecision (t : Text) : Text :=
  match t with
  | c :: d :: rest => if c = '.' ∧ (d = '*' ∨ d.isDigit = true) then withoutSize (d :: rest) else t
  | _ => t

/-- Whether a text starts with a directive. -/
def startsDirective (t : Text) : Bool :=
  match Text.lowerAscii ((withoutPrecision (withoutSize (readFlags {} t).2)).take 1) with
  | [c] => ("diouxefgcrsa%" : Text).contains c
  | _ => false

/-- Whether a text starts with a place that has a name. -/
def startsNamedPlace (t : Text) : Bool :=
  match Text.afterStart? t "%(" with
  | none => false
  | some t =>
    let name := t.takeWhile fun (c : CodePoint) => c.isWordPart || 0x80 ≤ c.val
    match t.drop name.length with
    | c :: rest => !name.isEmpty && c == ')' && startsDirective rest
    | [] => false

/-- Whether a pattern has a place with a name. -/
def hasNamedPlace : Text → Bool
  | [] => false
  | c :: rest => startsNamedPlace (c :: rest) || hasNamedPlace rest

end Pattern

end ProseCompiler
