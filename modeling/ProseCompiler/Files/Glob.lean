import ProseCompiler.Files.Lookup

/-!
# Searching a directory by name patterns

In a pattern for a name, a star stands for any text, a question mark for one code point, and a
bracketed set for one code point that is in it, or that is not if the set starts with an
exclamation mark.  A bracket that is never closed stands for itself.

A pattern for paths has a pattern for every component.  Two stars stand for any directories, but
only as a component of their own.  Links to directories are entered where a component leads
through them, but not by two stars.
-/

namespace ProseCompiler

/-! ## Patterns for names -/

/-- One part of a pattern for a name. -/
inductive NamePart where
  | anything
  | one
  | oneOf (isNegated : Bool) (ranges : List (CodePoint × CodePoint))
  | exactly (c : CodePoint)
deriving DecidableEq, Repr

namespace NamePart

/-- The ranges of a set: two code points around a hyphen, or one code point alone. -/
def ranges : Text → List (CodePoint × CodePoint)
  | [] => []
  | [a] => [(a, a)]
  | [a, b] => [(a, a), (b, b)]
  | a :: b :: c :: rest =>
    if b = '-' then
      (if a.val ≤ c.val then [(a, c)] else []) ++ ranges rest
    else (a, a) :: ranges (b :: c :: rest)

/-- Whether a set, given behind its opening bracket, stands for what is not in it. -/
def isNegated (t : Text) : Bool := t.head? == some ('!' : CodePoint)

/-- A set without its exclamation mark. -/
def inner (t : Text) : Text := if isNegated t then t.drop 1 else t

/-- The body of a set, and what follows the closing bracket, which may not come first. -/
def body? (t : Text) : Option (Text × Text) :=
  match inner t with
  | [] => none
  | c :: rest => (Text.cutAt? ']' rest).map fun (before, after) => (c :: before, after)

theorem inner_length (t : Text) : (inner t).length ≤ t.length := by
  unfold inner
  split <;> simp

theorem body?_length {t body after : Text} (h : body? t = some (body, after)) :
    after.length < t.length := by
  unfold body? at h
  split at h
  · simp at h
  · rename_i c rest hs
    simp only [Option.map_eq_some_iff, Prod.mk.injEq] at h
    obtain ⟨⟨before, final⟩, hc, -, rfl⟩ := h
    have hlt : final.length < rest.length := Text.cutAt?_length hc
    have hle := inner_length t
    simp only [hs, List.length_cons] at hle
    show final.length < t.length
    omega

/-- The parts of a pattern. -/
def ofText : Text → List NamePart
  | [] => []
  | c :: rest =>
    if c = '*' then .anything :: ofText rest
    else if c = '?' then .one :: ofText rest
    else if c = '[' then
      match h : body? rest with
      | some (body, after) =>
        have := body?_length h
        .oneOf (isNegated rest) (ranges body) :: ofText after
      | none => .exactly c :: ofText rest
    else .exactly c :: ofText rest
termination_by t => t.length

/-- Whether a name has the form of a pattern. -/
def matchName : List NamePart → Text → Bool
  | [], t => t.isEmpty
  | .anything :: parts, t => matchName parts t || (match t with
    | [] => false
    | _ :: rest => matchName (.anything :: parts) rest)
  | _ :: _, [] => false
  | .one :: parts, _ :: rest => matchName parts rest
  | .oneOf isNegated ranges :: parts, c :: rest =>
    (ranges.any fun (first, last) => first.val ≤ c.val && c.val ≤ last.val) != isNegated &&
      matchName parts rest
  | .exactly d :: parts, c :: rest => c == d && matchName parts rest
termination_by parts t => (parts.length, t.length)

end NamePart

/-! ## Patterns for paths -/

/-- One component of a pattern for paths. -/
inductive PathPart where
  | directories
  | named (pattern : List NamePart)
  | exactly (name : Text)
deriving DecidableEq, Repr

namespace PathPart

/-- The component that stands for any directories. -/
def anyDirectories : Text := "**"

/-- A component of a pattern. -/
def ofText (t : Text) : Except Fault PathPart :=
  if t = anyDirectories then .ok .directories
  else if Text.hasPart anyDirectories t then
    .error (.badValue "Invalid pattern: '**' can only be an entire path component")
  else if t.any fun (c : CodePoint) => c = '*' || c = '?' || c = '[' then
    .ok (.named (NamePart.ofText t))
  else .ok (.exactly t)

end PathPart

namespace Tree

/-- The path of something below a directory. -/
def pathBelow (root : Location) (parts : List Text) : Text := Location.text (root ++ parts)

/-- What stands in a directory, by name. -/
def listing (t : Tree) (path : Text) : Except Fault (List (Text × Node)) :=
  match t.status true path with
  | .error fault => .error fault
  | .ok (place, .directory) => .ok (t.children place)
  | .ok _ => .error (.system .notDirectory path)

/-- How many directories can be entered inside one another, the first one included. -/
def searchDepth : Nat := 981

/-- What a visit of a directory yields, and then what visits of the directories below it yield,
links aside. -/
def visitBelow (t : Tree) (root : Location) (visit : List Text → Except Fault (List (List Text))) :
    (depth : Nat) → List Text → Except Fault (List (List Text))
  | 0, _ => .error (.tooDeep "maximum recursion depth exceeded")
  | depth + 1, parts => do
    let here ← visit parts
    let entries ← t.listing (pathBelow root parts)
    let inner ← (entries.filter fun (_, node) => node = .directory).mapM fun (name, _) =>
      visitBelow t root visit depth (parts ++ [name])
    .ok (here ++ inner.flatten)

/-- Whether an entry of a directory is a directory or a link to one. -/
def leadsToDirectory (t : Tree) (path : Text) : Node → Except Fault Bool
  | .directory => .ok true
  | .file _ => .ok false
  | .link _ => t.isDirectory path

/-- What the components of a pattern lead to from a directory.  All but the last have to lead to
directories; after `mustEnter` the last has to as well. -/
def select (t : Tree) (root : Location) (mustEnter : Bool) :
    List PathPart → List Text → Except Fault (List (List Text))
  | [], parts => .ok [parts]
  | .directories :: rest, parts => do
    let found ← t.visitBelow root (select t root mustEnter rest) searchDepth parts
    .ok found.eraseDups
  | .exactly name :: rest, parts => do
    let parts := parts ++ [name]
    let path := pathBelow root parts
    let isThere ← if rest.isEmpty && !mustEnter then t.entryExists path else t.isDirectory path
    if isThere then select t root mustEnter rest parts else .ok []
  | .named pattern :: rest, parts => do
    let entries ← t.listing (pathBelow root parts)
    let found ← entries.mapM fun (name, node) => do
      let canGoOn ← if rest.isEmpty && !mustEnter then .ok true
        else t.leadsToDirectory (pathBelow root (parts ++ [name])) node
      if canGoOn && NamePart.matchName pattern name then
        select t root mustEnter rest (parts ++ [name])
      else .ok []
    .ok found.flatten

/-- The order of paths below a directory. -/
def sortBelow (found : List (List Text)) : List (List Text) :=
  found.mergeSort fun p q => Path.le ⟨.relative, p⟩ ⟨.relative, q⟩

/-- Everything below a directory that a pattern leads to from some directory there, in the order
of paths. -/
def search (t : Tree) (root : Location) (pattern : Text) : Except Fault (List (List Text)) := do
  let parts ← (Path.ofText pattern).parts.mapM PathPart.ofText
  let mustEnter := pattern.getLast? = some ('/' : CodePoint)
  let found ← t.select root mustEnter (.directories :: parts) []
  .ok (sortBelow found)

end Tree

end ProseCompiler
