import ProseCompiler.Files.Path

/-!
# File trees

A file tree is a finite map from places to entries.  The root is a directory of its own accord.
Links hold text; where they lead is decided by those that follow them.

`node?` is the view of a tree: `put` and `erase` are described by what they do to it.
-/

namespace ProseCompiler

/-- What stands at a place. -/
inductive Node where
  | file (content : Bytes)
  | link (target : Text)
  | directory
deriving DecidableEq, Repr

/-- A file tree, and the place where the program stands. -/
structure Tree where
  entries : List (Location × Node)
  workingDirectory : Location
deriving Repr

namespace Tree

/-- The entry at a place. -/
def node? (t : Tree) (l : Location) : Option Node :=
  if l = [] then some .directory else t.entries.lookup l

/-- The tree with an entry at a place, whatever stood there. -/
def put (t : Tree) (l : Location) (e : Node) : Tree :=
  if t.entries.any fun (m, _) => m == l then
    { t with entries := t.entries.map fun (m, d) => if m = l then (m, e) else (m, d) }
  else { t with entries := t.entries ++ [(l, e)] }

/-- The tree without the entry at a place. -/
def erase (t : Tree) (l : Location) : Tree :=
  { t with entries := t.entries.filter fun (m, _) => m != l }

/-- The names in a directory with their entries, in the order in which they came. -/
def children (t : Tree) (l : Location) : List (Text × Node) :=
  t.entries.filterMap fun (m, e) =>
    if m ≠ [] ∧ Location.parent m = l then some (Location.name m, e) else none

/-- Whether a directory has no entries. -/
def isEmptyDirectory (t : Tree) (l : Location) : Bool := (t.children l).isEmpty

/-- Whether a regular file stands at a place itself. -/
def isFileAt (t : Tree) (l : Location) : Bool :=
  match t.node? l with
  | some (.file _) => true
  | _ => false

/-- The tree with directories at a place and at every place above it where nothing stands. -/
def putDirectories (t : Tree) (l : Location) : Tree :=
  (List.range (l.length + 1)).foldl
    (fun t n =>
      let above := l.take n
      if (t.node? above).isSome then t else t.put above .directory)
    t

end Tree

end ProseCompiler
