import ProseCompiler.Text.Blank
import ProseCompiler.Text.Lines

/-!
# Documents and their headers

A document is prose that describes a program, after an optional header of settings:

    @language: python
    @output: hello.py

    Print hello world

The header starts on the first line.  Its lines start with an at sign, and it ends with a blank
line.  Without a line of the form `@key: value`, or without the blank line, the whole text is the
instructions; settings that were read before the header failed to end still count.
-/

namespace ProseCompiler

/-- Settings in the order in which their keys first came; no key comes twice. -/
abbrev Settings := List (Text × Text)

namespace Settings

/-- The value of a key. -/
def get? (settings : Settings) (key : Text) : Option Text := settings.lookup key

/-- The settings with one more: a key that is there already keeps its place and takes the new
value. -/
def put (settings : Settings) (key value : Text) : Settings :=
  if settings.any fun (k, _) => k == key then
    settings.map fun (k, v) => if k = key then (k, value) else (k, v)
  else settings ++ [(key, value)]

end Settings

/-- A document: its whole text, the settings of its header, and the instructions. -/
structure Document where
  raw : Text
  settings : Settings
  instructions : Text
deriving DecidableEq, Repr

namespace Document

/-- What a line can be while the header lasts. -/
inductive Line where
  | setting (key value : Text)
  | malformed
  | blank
  | prose
deriving DecidableEq, Repr

/-- The key and the value of a trimmed line that starts with an at sign, given without it. -/
def setting? (line : Text) : Option (Text × Text) :=
  let key := line.takeWhile CodePoint.isWordPart
  match line.drop key.length with
  | c :: value => if c = ':' ∧ key ≠ [] then some (key, Text.trim value) else none
  | [] => none

/-- What a line is, blanks around it aside. -/
def classify (line : Text) : Line :=
  match Text.trim line with
  | [] => .blank
  | c :: rest =>
    if c = '@' then
      match setting? rest with
      | some (key, value) => .setting key value
      | none => .malformed
    else .prose

/-- The settings that the lines add to `settings`, and the lines behind the header if it ends. -/
def headerFrom (settings : Settings) : List Text → Settings × Option (List Text)
  | [] => (settings, none)
  | line :: rest =>
    match classify line with
    | .setting key value => headerFrom (settings.put key value) rest
    | .malformed => headerFrom settings rest
    | .blank => if settings.isEmpty then (settings, none) else (settings, some rest)
    | .prose => (settings, none)

/-- The document that a text holds. -/
def parse (raw : Text) : Document :=
  let (settings, body) := headerFrom [] (Text.lines raw)
  { raw, settings, instructions := (body.map Text.unlines).getD raw }

/-- The value of a key, unless it is empty. -/
def nonEmpty? (settings : Settings) (key : Text) : Option Text :=
  (settings.get? key).filter fun value => !value.isEmpty

/-- The language that the header asks for. -/
def language? (document : Document) : Option Text := nonEmpty? document.settings "language"

/-- The output file that the header asks for. -/
def output? (document : Document) : Option Text := nonEmpty? document.settings "output"

end Document

end ProseCompiler
