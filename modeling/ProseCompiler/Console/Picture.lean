import ProseCompiler.Console.PictureTable
import ProseCompiler.Console.Style

/-!
# Pictures by name

A name between two colons becomes the picture that it stands for.  A form may follow the name: as
a picture, or as text.  Names that stand for nothing stay, and their second colon begins no other
name.
-/

namespace ProseCompiler.Picture

/-- The picture of a name in a list of names and pictures in turn. -/
def among? (name : Text) : List Text → Option Text
  | known :: picture :: rest => if known = name then some picture else among? name rest
  | _ => none

/-- The names and the pictures in turn. -/
def known : List Text := Text.words PictureTable.entries

/-- The forms that may follow a name, with the mark that stands for each. -/
def forms : List (Text × CodePoint) :=
  [("-emoji", CodePoint.ofNat 0xFE0F), ("-text", CodePoint.ofNat 0xFE0E)]

/-- A name without the form at its end, and the mark of the form. -/
def splitForm (t : Text) : Text × Text :=
  match forms.find? fun (form, _) => Text.endsWith t form with
  | some (form, mark) => (t.take (t.length - form.length), [mark])
  | none => (t, [])

/-- The picture of what stands between two colons. -/
def ofName? (t : Text) : Option Text :=
  let (name, mark) := splitForm t
  (among? (Text.lower name) known).map (· ++ mark)

/-- What stands between a colon and the next one, if no blank comes before it. -/
def name? : Text → Option Text
  | [] => none
  | c :: rest =>
    if c = ':' then some []
    else if c.isBlank then none
    else (name? rest).map (c :: ·)

/-- `replace`, with a number of code points that belong to a name already treated. -/
def replaceFrom : (skipped : Nat) → Text → Text
  | _, [] => []
  | skipped + 1, _ :: t => replaceFrom skipped t
  | 0, c :: t =>
    if c = ':' then
      match name? t with
      | some name =>
        ((ofName? name).getD ((':' : CodePoint) :: name ++ ":")) ++ replaceFrom (name.length + 1) t
      | none => c :: replaceFrom 0 t
    else c :: replaceFrom 0 t

/-- The text with pictures in the place of their names. -/
def replace (t : Text) : Text := replaceFrom 0 t

end ProseCompiler.Picture
