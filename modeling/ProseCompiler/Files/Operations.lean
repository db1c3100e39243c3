import ProseCompiler.Files.Lookup

/-!
# Reading and changing file trees

What programs do to files: reading, overwriting, appending, making directories, renaming and
removing.  An operation that changes the tree gives the tree back also when it fails, since a
failure may come after a change: a file that is opened for writing is empty before the first
octet is encoded.
-/

namespace ProseCompiler.Tree

/-! ## Reading -/

/-- The octets of the file at a path. -/
def readFile (t : Tree) (path : Text) : Except Fault Bytes :=
  match t.status true path with
  | .error fault => .error fault
  | .ok (_, .file content) => .ok content
  | .ok _ => .error (.system .isDirectory path)

/-- The text of the file at a path, which has to be UTF-8; every line end is a line feed. -/
def readText (t : Tree) (path : Text) : Except Fault Text :=
  match t.readFile path with
  | .error fault => .error fault
  | .ok content =>
    match Utf8.decode content with
    | .error fault => .error (.undecodable fault)
    | .ok text => .ok (Text.unifyNewlines text)

/-! ## Writing -/

/-- The place that is written to under a path, and what it holds.  A directory cannot be
written to. -/
def writable (t : Tree) (path : Text) : Except Fault (Location × Bytes) :=
  match checkPath path with
  | .error fault => .error fault
  | .ok () =>
    match t.find true path with
    | .error error => .error (.system error path)
    | .ok (place, none) => .ok (place, [])
    | .ok (place, some (.file content)) => .ok (place, content)
    | .ok (_, some _) => .error (.system .isDirectory path)

/-- The tree with a text in the file at a path, made or overwritten.  A text that cannot be
encoded leaves the file empty. -/
def writeText (t : Tree) (path text : Text) : Tree × Except Fault Unit :=
  match t.writable path with
  | .error fault => (t, .error fault)
  | .ok (place, _) =>
    match Utf8.encode text with
    | .error fault => (t.put place (.file []), .error (.unencodable fault))
    | .ok content => (t.put place (.file content), .ok ())

/-- The tree with a file at a place of which the content is known. -/
def putFile (t : Tree) (place : Location) (content : Bytes) : Tree := t.put place (.file content)

/-! ## Directories -/

/-- The tree with a new directory at a path. -/
def makeDirectory (t : Tree) (path : Text) : Except Fault Tree :=
  match checkPath path with
  | .error fault => .error fault
  | .ok () =>
    match t.find false path with
    | .error error => .error (.system error path)
    | .ok (_, some _) => .error (.system .entryExists path)
    | .ok (place, none) => .ok (t.put place .directory)

/-- Whether a fault only says that something stands there already. -/
def meansPresent : Fault → Bool
  | .system error _ => error == .entryExists
  | _ => false

/-- Makes one directory; whatever is refused, a directory that can be entered will do. -/
def makeOrKeep (t : Tree) (path : Text) : Tree × Except Fault Unit :=
  match t.makeDirectory path with
  | .ok t => (t, .ok ())
  | .error fault => (t, if t.canEnter path then .ok () else .error fault)

/-- A directory at a place and whatever it needs above it, given by the names from the last to the
first.  Directories above are made first, where nothing can be reached; that something else stands
in their way is noticed only by the next directory. -/
def makeAll (t : Tree) : (reversed : List Text) → Tree × Except Fault Unit
  | [] => (t, .ok ())
  | name :: above =>
    let path := Location.text (name :: above).reverse
    if t.canReach (Location.text above.reverse) then t.makeOrKeep path
    else
      match makeAll t above with
      | (t, .ok ()) => t.makeOrKeep path
      | (t, .error fault) => if meansPresent fault then t.makeOrKeep path else (t, .error fault)

/-- How many directories `makeAll` has to look at before it makes the first one. -/
def makeAllDepth (t : Tree) : (reversed : List Text) → Nat
  | [] => 0
  | _ :: above => if t.canReach (Location.text above.reverse) then 1 else makeAllDepth t above + 1

/-- How many directories may be looked at before the first one is made. -/
def makeAllLimit : Nat := 992

/-- `makeAll`, given up before anything is made if too many directories are missing. -/
def ensureDirectory (t : Tree) (reversed : List Text) : Tree × Except Fault Unit :=
  if t.makeAllDepth reversed ≤ makeAllLimit then t.makeAll reversed
  else (t, .error (.tooDeep "maximum recursion depth exceeded"))

/-- Makes one directory; a directory that is there already will do. -/
def makeOrEnter (t : Tree) (path : Text) : Tree × Except Fault Unit :=
  match t.makeDirectory path with
  | .ok t => (t, .ok ())
  | .error fault =>
    match fault with
    | .system .noEntry _ => (t, .error fault)
    | .system _ _ =>
      match t.isDirectory path with
      | .ok true => (t, .ok ())
      | .ok false => (t, .error fault)
      | .error other => (t, .error other)
    | _ => (t, .error fault)

/-- A directory at a path with the directories above it, given by the components from the last to
the first.  The last directory is tried first; those above are made only if it misses them. -/
def enterAll (t : Tree) (anchor : Anchor) : (reversed : List Text) → Tree × Except Fault Unit
  | [] => makeOrEnter t (Path.text ⟨anchor, []⟩)
  | name :: above =>
    let path := Path.text ⟨anchor, (name :: above).reverse⟩
    match makeOrEnter t path with
    | (t, .error (.system .noEntry _)) =>
      match enterAll t anchor above with
      | (t, .ok ()) => makeOrEnter t path
      | (t, .error fault) => (t, .error fault)
    | result => result

/-- How many directories `enterAll` has to try before one of them misses nothing. -/
def enterAllDepth (t : Tree) (anchor : Anchor) : (reversed : List Text) → Nat
  | [] => 1
  | name :: above =>
    match t.makeDirectory (Path.text ⟨anchor, (name :: above).reverse⟩) with
    | .error (.system .noEntry _) => enterAllDepth t anchor above + 1
    | _ => 1

/-- How many directories may be tried before one of them misses nothing. -/
def enterAllLimit : Nat := 990

/-- `enterAll`, given up before anything is made if too many directories are missing. -/
def provideDirectory (t : Tree) (anchor : Anchor) (reversed : List Text) :
    Tree × Except Fault Unit :=
  if t.enterAllDepth anchor reversed ≤ enterAllLimit then t.enterAll anchor reversed
  else (t, .error (.tooDeep "maximum recursion depth exceeded while calling a Python object"))

/-- A directory at a path with the directories above it. -/
def provide (t : Tree) (path : Path) : Tree × Except Fault Unit :=
  t.provideDirectory path.anchor path.parts.reverse

/-- The tree with a text at the end of the file at a path, made if it is missing.  A text that
cannot be encoded adds nothing. -/
def appendText (t : Tree) (path text : Text) : Tree × Except Fault Unit :=
  match t.writable path with
  | .error fault => (t, .error fault)
  | .ok (place, content) =>
    match Utf8.encode text with
    | .error fault => (t.put place (.file content), .error (.unencodable fault))
    | .ok more => (t.put place (.file (content ++ more)), .ok ())

/-! ## Moving and removing -/

/-- The tree in which what stands at one place, with everything below it, stands at another. -/
def move (t : Tree) (source target : Location) : Tree :=
  { t with
    entries := (t.erase target).entries.map fun (m, e) =>
      if m.take source.length = source then (target ++ m.drop source.length, e) else (m, e) }

/-- The tree with the entry of one path at another one, where nothing stands. -/
def rename (t : Tree) (source target : Text) : Except Fault Tree := do
  let (sourcePlace, _) ← t.status false source
  checkPath target
  match t.find false target with
  | .error error => .error (.system error target)
  | .ok (targetPlace, _) => .ok (t.move sourcePlace targetPlace)

/-- The tree without the file or the link at a path. -/
def remove (t : Tree) (path : Text) : Except Fault Tree := do
  let (place, node) ← t.status false path
  match node with
  | .directory => .error (.system .isDirectory path)
  | _ => .ok (t.erase place)

end ProseCompiler.Tree
