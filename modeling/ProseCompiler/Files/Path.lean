import ProseCompiler.Text.Lines
import ProseCompiler.Fault

/-!
# Paths

A path is a start and the components after it, without empty and single-dot components; two dots
stay, since what they mean depends on links.  Nothing here looks at a file tree.
-/

namespace ProseCompiler

/-- Where a path starts: where the program stands, or at a root. -/
inductive Anchor where
  | relative
  | root
  | doubleRoot
deriving DecidableEq, Repr

def Anchor.text : Anchor → Text
  | .relative => ""
  | .root => "/"
  | .doubleRoot => "//"

/-- A path as it was written, without its idle parts. -/
structure Path where
  anchor : Anchor
  parts : List Text
deriving DecidableEq, Repr

/-- The absolute place of a file: the names from the root on. -/
abbrev Location := List Text

namespace Path

/-- The component that stands for the directory itself. -/
def here : Text := "."

/-- The component that stands for the directory above. -/
def up : Text := ".."

/-- The pieces of a text between slashes. -/
def pieces (t : Text) : List Text := Text.splitOn '/' t

/-- The root that a text starts from. -/
def anchorOf (t : Text) : Anchor :=
  match (t.takeWhile fun (c : CodePoint) => c = '/').length with
  | 0 => .relative
  | 2 => .doubleRoot
  | _ => .root

/-- The path that a text spells. -/
def ofText (t : Text) : Path :=
  ⟨anchorOf t, (pieces t).filter fun piece => piece ≠ [] ∧ piece ≠ here⟩

/-- The text of a path; the empty path is a single dot. -/
def text (p : Path) : Text :=
  if p.anchor = .relative ∧ p.parts = [] then here
  else p.anchor.text ++ Text.joinWith "/" p.parts

def isAbsolute (p : Path) : Bool := p.anchor != .relative

/-- The path of a location. -/
def ofLocation (l : Location) : Path := ⟨.root, l⟩

/-- The second path as seen from the first; an absolute one stays as it is. -/
def join (p q : Path) : Path := if q.isAbsolute then q else ⟨p.anchor, p.parts ++ q.parts⟩

/-- The path without its last component. -/
def parent (p : Path) : Path := ⟨p.anchor, p.parts.dropLast⟩

/-- The last component, empty if there is none. -/
def name (p : Path) : Text := (p.parts.getLast?).getD []

/-- The last dot of a name with what follows it, unless the dot comes first or last. -/
def suffixOf (name : Text) : Text :=
  match Text.cutAtLast? '.' name with
  | some (before, after) => if before ≠ [] ∧ after ≠ [] then ([('.' : CodePoint)] : Text) ++ after else []
  | none => []

/-- A name without its suffix. -/
def stemOf (name : Text) : Text := name.take (name.length - (suffixOf name).length)

/-- The path with another last component. -/
def withName (p : Path) (name : Text) : Except Fault Path :=
  if p.name = [] then .error (.emptyName p.text)
  else
    let q := ofText name
    if name = [] ∨ name.getLast? = some ('/' : CodePoint) ∨ q.isAbsolute = true ∨ q.parts.length ≠ 1 then
      .error (.invalidName name)
    else .ok ⟨p.anchor, p.parts.dropLast ++ [name]⟩

/-- The path with another suffix of its last component. -/
def withSuffix (p : Path) (suffix : Text) : Except Fault Path :=
  if p.name = [] then .error (.emptyName p.text)
  else .ok ⟨p.anchor, p.parts.dropLast ++ [stemOf p.name ++ suffix]⟩

/-- The order of paths, component by component; a root is a component of its own. -/
def le (p q : Path) : Bool :=
  let parts := fun (p : Path) => if p.isAbsolute then p.anchor.text :: p.parts else p.parts
  let rec leParts : List Text → List Text → Bool
    | [], _ => true
    | _ :: _, [] => false
    | a :: s, b :: t => if a = b then leParts s t else Text.le a b
  leParts (parts p) (parts q)

end Path

namespace Location

/-- The text of a location. -/
def text (l : Location) : Text := (Path.ofLocation l).text

/-- The directory above; that of the root is the root. -/
def parent (l : Location) : Location := l.dropLast

/-- The name of a place in its directory, empty at the root. -/
def name (l : Location) : Text := (l.getLast?).getD []

/-- Where pieces lead from a place if no link stands on the way: empty pieces and single dots stay,
two dots go up. -/
def walk (l : Location) : List Text → Location
  | [] => l
  | piece :: rest =>
    if piece = [] ∨ piece = Path.here then walk l rest
    else if piece = Path.up then walk (parent l) rest
    else walk (l ++ [piece]) rest

/-- The place that a text leads to from another place if no link stands on the way. -/
def ofText (start : Location) (t : Text) : Location :=
  walk (if Path.anchorOf t = .relative then start else []) (Path.pieces t)

/-- The components that two places have in common at their start. -/
def shared : Location → Location → Nat
  | a :: l, b :: m => if a = b then shared l m + 1 else 0
  | _, _ => 0

/-- A path that leads from one place to another. -/
def relativeTo (start target : Location) : Text :=
  let n := shared start target
  match List.replicate (start.length - n) Path.up ++ target.drop n with
  | [] => Path.here
  | parts => Text.joinWith "/" parts

end Location

end ProseCompiler
