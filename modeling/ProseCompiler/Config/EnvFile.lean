import ProseCompiler.Text.Blank
import ProseCompiler.Text.Lines

/-!
# Environment files

A file of variables, one `NAME=value` a line:

    # a comment
    export NAME = "a value"   # another one
    'QUOTED NAME'='another value'
    GREETING=hello ${NAME:-you}

A line that cannot be read is skipped from where reading failed.  A quoted value may go on over
several lines.  `bindings` reads the names and the values as they stand; `expand` puts values in
the place of the names in braces.
-/

namespace ProseCompiler.EnvFile

/-- A name with its value; a bare name has none. -/
abbrev Binding := Text × Option Text

/-- A blank that does not end a line. -/
def isInlineBlank (c : CodePoint) : Bool := c.isBlank && c != Text.newline

def skipInline (t : Text) : Text := t.dropWhile isInlineBlank

/-- What follows the line that a text starts in. -/
def afterLine (t : Text) : Text := (t.dropWhile fun c => c != Text.newline).drop 1

/-! ## Parts of a line -/

/-- The text up to the closing quote, and what follows it.  A quote behind a backslash closes only
if no later quote does. -/
def untilQuote (quote : CodePoint) : (escaped : Bool) → Text → Option (Text × Text)
  | _, [] => none
  | true, c :: rest => (untilQuote quote false rest).map fun (value, after) => (c :: value, after)
  | false, c :: rest =>
    if c = quote then some ([], rest)
    else if c = '\\' ∧ rest.head? = some quote then
      match untilQuote quote true rest with
      | some (value, after) => some (c :: value, after)
      | none => some ([c], rest.drop 1)
    else (untilQuote quote false rest).map fun (value, after) => (c :: value, after)

/-- What a backslash and one more code point stand for between quotes of a kind; `none` if they
stand for themselves. -/
def escape? (quote c : CodePoint) : Option CodePoint :=
  if c = '\\' ∨ c = '\'' then some c
  else if quote = '\'' then none
  else if c = '"' then some c
  else if c = 'a' then some (CodePoint.ofNat 7)
  else if c = 'b' then some (CodePoint.ofNat 8)
  else if c = 'f' then some (CodePoint.ofNat 12)
  else if c = 'n' then some Text.newline
  else if c = 'r' then some (CodePoint.ofNat 13)
  else if c = 't' then some (CodePoint.ofNat 9)
  else if c = 'v' then some (CodePoint.ofNat 11)
  else none

/-- A quoted text with its escapes read. -/
def unescape (quote : CodePoint) : (skipped : Bool) → Text → Text
  | _, [] => []
  | true, _ :: rest => unescape quote false rest
  | false, c :: rest =>
    match if c = '\\' then rest.head?.bind (escape? quote) else none with
    | some d => d :: unescape quote true rest
    | none => c :: unescape quote false rest

/-- The name at the start of a text, and what follows; a line that starts with a comment has no
name. -/
def name? (t : Text) : Option (Option Text × Text) :=
  match t with
  | [] => none
  | c :: rest =>
    if c = '#' then some (none, t)
    else if c = '\'' then
      let name := rest.takeWhile fun (d : CodePoint) => !(d = '\'')
      match rest.drop name.length with
      | _ :: after => if name = [] then none else some (some name, after)
      | [] => none
    else
      let name := t.takeWhile fun (d : CodePoint) => !(d = '=' || d = '#' || d.isBlank)
      if name = [] then none else some (some name, t.drop name.length)

/-- An unquoted value up to a comment that stands behind a blank. -/
def beforeComment : Text → Text
  | [] => []
  | c :: rest =>
    if c.isBlank ∧ ((c :: rest).dropWhile CodePoint.isBlank).head? = some ('#' : CodePoint) then []
    else c :: beforeComment rest

/-- The value behind an equals sign, and what follows. -/
def value? (t : Text) : Option (Text × Text) :=
  let start := skipInline t
  match start with
  | [] => some ([], [])
  | c :: rest =>
    if c = '\'' ∨ c = '"' then
      (untilQuote c false rest).map fun (value, after) => (unescape c false value, after)
    else if c = '#' ∧ start.length < t.length then some ([], start)
    else
      let line := start.takeWhile fun c => c != Text.newline
      some (Text.trimRight (beforeComment line), start.drop line.length)

/-- What follows a line that has nothing left but a comment. -/
def lineEnd? (t : Text) : Option Text :=
  let rest := skipInline t
  let rest := if rest.head? = some ('#' : CodePoint) then
      rest.dropWhile fun c => c != Text.newline
    else rest
  match rest with
  | [] => some []
  | c :: after => if c = Text.newline then some after else none

/-- The text behind the word that marks a variable for export, if it starts with it. -/
def afterExport (t : Text) : Text :=
  match Text.afterStart? t "export" with
  | some rest => if (skipInline rest).length < rest.length then skipInline rest else t
  | none => t

/-! ## Lines -/

/-- The binding at the start of a text, if there is one, and what follows. -/
def binding (t : Text) : Option Binding × Text :=
  let t := afterExport t
  match name? t with
  | none => (none, afterLine t)
  | some (name, rest) =>
    let rest := skipInline rest
    match rest with
    | c :: after =>
      if c = '=' then
        match value? after with
        | none => (none, afterLine (skipInline after))
        | some (value, rest) =>
          match lineEnd? rest with
          | some rest => (name.map fun name => (name, some value), rest)
          | none => (none, afterLine rest)
      else
        match lineEnd? rest with
        | some rest => (name.map fun name => (name, none), rest)
        | none => (none, afterLine rest)
    | [] => (name.map fun name => (name, none), [])

/-- `bindings` with the length of the text as fuel. -/
def bindingsWithin : (fuel : Nat) → Text → List Binding
  | 0, _ => []
  | fuel + 1, t =>
    match t.dropWhile CodePoint.isBlank with
    | [] => []
    | start =>
      match binding start with
      | (some found, rest) => found :: bindingsWithin fuel rest
      | (none, rest) => bindingsWithin fuel rest

/-- The bindings of a file, in order; a mark at its start counts for nothing. -/
def bindings (t : Text) : List Binding :=
  let t := if t.head? = some (CodePoint.ofNat 0xFEFF) then t.drop 1 else t
  bindingsWithin (t.length + 1) t

/-! ## Expansion -/

/-- A reference at the start of a text: the name, the default, and how long it is. -/
def reference? (t : Text) : Option (Text × Text × Nat) :=
  match Text.afterStart? t "$\x7b" with
  | none => none
  | some rest =>
    let name := rest.takeWhile fun (c : CodePoint) => !(c = ':' || c = '\x7d')
    let afterName := rest.drop name.length
    match afterName with
    | [] => none
    | c :: _ =>
      if c = '\x7d' then some (name, [], name.length + 3)
      else
        match Text.afterStart? afterName ":-" with
        | none => none
        | some tail =>
          let default := tail.takeWhile fun (c : CodePoint) => !(c = '\x7d')
          if default.length < tail.length then
            some (name, default, name.length + default.length + 5)
          else none

/-- A value with the references in it replaced; `skipped` code points belong to one. -/
def expandFrom (lookup : Text → Option Text) : (skipped : Nat) → Text → Text
  | _, [] => []
  | skipped + 1, _ :: rest => expandFrom lookup skipped rest
  | 0, c :: rest =>
    match reference? (c :: rest) with
    | some (name, default, width) =>
      (lookup name).getD default ++ expandFrom lookup (width - 1) rest
    | none => c :: expandFrom lookup 0 rest

/-- Variables by name; a name that came without a value is there without one. -/
abbrev Values := List (Text × Option Text)

/-- What a name in a reference stands for: the environment first, then the values above it in the
file.  A name that came without a value stands for nothing, whatever the default. -/
def meaning (environment : List (Text × Text)) (values : Values) (name : Text) : Option Text :=
  match environment.lookup name with
  | some value => some value
  | none => (values.lookup name).map fun value => value.getD []

/-- The values with one more; a name that is there already keeps its place. -/
def putValue (values : Values) (name : Text) (value : Option Text) : Values :=
  if values.any fun (n, _) => n == name then
    values.map fun (n, v) => if n = name then (n, value) else (n, v)
  else values ++ [(name, value)]

/-- The values of bindings, references replaced one after the other. -/
def expand (environment : List (Text × Text)) (bindings : List Binding) : Values :=
  bindings.foldl
    (fun values (name, value) =>
      putValue values name (value.map fun value => expandFrom (meaning environment values) 0 value))
    []

end ProseCompiler.EnvFile
