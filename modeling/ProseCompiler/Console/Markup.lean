import ProseCompiler.Console.Picture
import ProseCompiler.Fault

/-!
# Console markup

What is printed may hold tags in square brackets: one opens a style, and one with a slash closes
it, or the last one opened if it names none.  A plain console shows no styles, so all that is seen
of a tag is that it is gone; but a closing tag without an opening one is a fault.

A tag starts with a small letter, a slash, a number sign or an at sign.  Backslashes before a tag
escape it, and stand for half as many themselves.

Of a tag only the name counts here.  The numbers of a colour and what a tag with an at sign calls
are not read, although a console may find a fault with them.
-/

namespace ProseCompiler

namespace Markup

/-- A tag: its name, and what follows an equals sign. -/
structure Tag where
  name : Text
  parameters : Option Text
deriving DecidableEq, Repr

/-- A part of a text with markup: plain text, or a tag and where it stands. -/
inductive Piece where
  | plain (t : Text)
  | tag (position : Nat) (tag : Tag)
deriving DecidableEq, Repr

/-! ## Finding tags -/

/-- Whether a tag may start with a code point. -/
def startsTag (c : CodePoint) : Bool :=
  (0x61 ≤ c.val && c.val ≤ 0x7A) || c == '#' || c == '/' || c == '@'

/-- A tag of which the name and parameters are given as one text. -/
def Tag.ofText (t : Text) : Tag :=
  match Text.cutAt? '=' t with
  | some (name, parameters) => ⟨name, some parameters⟩
  | none => ⟨t, none⟩

/-- A tag as it is written. -/
def Tag.text (tag : Tag) : Text :=
  let inner := match tag.parameters with
    | some parameters => tag.name ++ "=" ++ parameters
    | none => tag.name
  "[" ++ inner ++ "]"

/-- What stands in brackets at the start of a text. -/
def bracketed? : Text → Option Text
  | a :: b :: rest =>
    if a = '[' ∧ startsTag b = true then
      let inner := rest.takeWhile fun (c : CodePoint) => c ≠ ']' && c ≠ '['
      if (rest.drop inner.length).head? = some (']' : CodePoint) then some (b :: inner) else none
    else none
  | _ => none

/-- The number of backslashes at the start of a text, and the inside of the brackets after
them. -/
def tagAt? (t : Text) : Option (Nat × Text) :=
  let escapes := t.takeWhile fun (c : CodePoint) => c = '\\'
  (bracketed? (t.drop escapes.length)).map fun inner => (escapes.length, inner)

/-- The pieces of a tag with backslashes before it. -/
def tagPieces (position escapes : Nat) (inner : Text) : List Piece :=
  let slashes : List Piece := if escapes / 2 = 0 then [] else [.plain (Text.fill (escapes / 2) '\\')]
  slashes ++
    [if escapes % 2 = 1 then .plain ("[" ++ inner ++ "]")
      else .tag (position + escapes / 2 * 2) (Tag.ofText inner)]

/-- The reversed plain text as a piece, unless it is empty. -/
def plainPiece (reversed : Text) : List Piece :=
  if reversed.isEmpty then [] else [.plain reversed.reverse]

/-- `pieces` from a position on, behind some plain text, with a number of code points that belong
to a tag already found. -/
def piecesFrom : (skipped position : Nat) → (plain : Text) → Text → List Piece
  | _, _, plain, [] => plainPiece plain
  | skipped + 1, position, plain, _ :: t => piecesFrom skipped (position + 1) plain t
  | 0, position, plain, c :: t =>
    match tagAt? (c :: t) with
    | some (escapes, inner) =>
      plainPiece plain ++ tagPieces position escapes inner ++
        piecesFrom (escapes + inner.length + 1) (position + 1) [] t
    | none => piecesFrom 0 (position + 1) (c :: plain) t

/-- The pieces of a text. -/
def pieces (t : Text) : List Piece := piecesFrom 0 0 [] t

/-! ## Opening and closing -/

/-- The names of the open styles after one more closing tag; the last one opened comes first. -/
def close (position : Nat) (tag : Tag) (opened : List Text) : Except Fault (List Text) :=
  let name := Text.trim (tag.name.drop 1)
  let refuse := fun (shown reason : Text) =>
    Except.error (Fault.raised "MarkupError"
      ("closing tag '" ++ shown ++ "' at position " ++ Text.ofNat position ++ " " ++ reason))
  if name = [] then
    match opened with
    | _ :: rest => .ok rest
    | [] => refuse "[/]" "has nothing to close"
  else if opened.contains (Style.normalName name) then .ok (opened.erase (Style.normalName name))
  else refuse tag.text "doesn't match any open tag"

/-- A text without the control characters that would move the cursor. -/
def withoutControls (t : Text) : Text :=
  t.filter fun c => !(c.val == 7 || c.val == 8 || c.val == 11 || c.val == 12 || c.val == 13)

/-- A plain piece as it is shown. -/
def shownPlain (t : Text) : Text :=
  withoutControls (Picture.replace (Text.replaceAll "\\[" "[" t))

/-- What is shown of pieces while some styles are open. -/
def show? (opened : List Text) : List Piece → Except Fault Text
  | [] => .ok []
  | .plain t :: rest => (show? opened rest).map (shownPlain t ++ ·)
  | .tag position tag :: rest =>
    if tag.name.head? = some ('/' : CodePoint) then
      match close position tag opened with
      | .error fault => .error fault
      | .ok opened => show? opened rest
    else show? (Style.normalName tag.name :: opened) rest

/-! ## Tab stops -/

/-- How far apart tab stops are. -/
def tabWidth : Nat := 8

/-- The text with spaces in the place of tabs, from a column on. -/
def expandTabs : (column : Nat) → Text → Text
  | _, [] => []
  | column, c :: t =>
    if c = '\t' then
      let count := tabWidth - column % tabWidth
      Text.fill count ' ' ++ expandTabs (column + count) t
    else c :: expandTabs (if c = Text.newline then 0 else column + 1) t

/-- What a plain console shows of a text with markup. -/
def render (t : Text) : Except Fault Text := (show? [] (pieces t)).map (expandTabs 0)

end Markup

/-- A console: what it shows of a text with markup, or the fault with which it refuses the text. -/
abbrev Console := Text → Except Fault Text

namespace Console

/-- The console that shows no styles, on an output for all characters. -/
def plain : Console := Markup.render

/-- What is said of an output that lacks a character. -/
def advice : Text :=
  "\n*** You may need to add PYTHONIOENCODING=utf-8 to your environment ***"

/-- The console that shows no styles, on an output in UTF-8. -/
def utf8 : Console := fun t =>
  match Markup.render t with
  | .error fault => .error fault
  | .ok shown =>
    match Utf8.encode shown with
    | .error fault => .error (.unencodable { fault with reason := fault.reason ++ advice })
    | .ok _ => .ok shown

end Console

end ProseCompiler
