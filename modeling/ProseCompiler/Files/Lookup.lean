import ProseCompiler.Files.Tree

/-!
# From paths to places

`find` goes the way the file system goes: from the root or from where the program stands, one
component after the other, through links, refusing what is no directory.  `resolve` computes the
place that a path stands for even if parts of it do not exist; what cannot be looked at counts as
a plain name there, and a link that leads back into itself is refused.
-/

namespace ProseCompiler

namespace Tree

/-! ## Lookup -/

/-- The octets that a name takes; a lone low surrogate below U+DD00 stands for one octet. -/
def nameSize (name : Text) : Nat :=
  name.foldl
    (fun n c =>
      n + if c.val < 0x80 then 1 else if c.val < 0x800 then 2
        else if 0xDC80 ≤ c.val ∧ c.val ≤ 0xDCFF then 1
        else if c.val < 0x10000 then 3 else 4)
    0

/-- The longest name of an entry, in octets. -/
def nameLimit : Nat := 255

/-- The longest path, in octets. -/
def pathLimit : Nat := 4095

/-- How many links a lookup follows. -/
def linkLimit : Nat := 40

/-- How far a lookup has come without following a link. -/
inductive Advance where
  | arrived (place : Location) (node : Option Node)
  | atLink (directory : Location) (target : Text) (rest : List Text)
  | refused (error : SystemError)

/-- Goes from a place along pieces of a path up to the first link that has to be followed.  Pieces
that are empty or a single dot need a directory to stand in. -/
def advance (t : Tree) (followLast : Bool) (place : Location) : List Text → Advance
  | [] => .arrived place (t.node? place)
  | piece :: rest =>
    if t.node? place ≠ some .directory then .refused .notDirectory
    else if piece = [] ∨ piece = Path.here then advance t followLast place rest
    else if piece = Path.up then advance t followLast (Location.parent place) rest
    else if nameSize piece > nameLimit then .refused .nameTooLong
    else
      let next := place ++ [piece]
      match t.node? next with
      | some (.link target) =>
        if rest = [] ∧ followLast = false then .arrived next (some (.link target))
        else .atLink place target rest
      | some _ => advance t followLast next rest
      | none => if rest = [] then .arrived next none else .refused .noEntry

/-- `find` from a place, with a number of links that may still be followed. -/
def findFrom (t : Tree) (followLast : Bool) : (links : Nat) → Location → List Text →
    Except SystemError (Location × Option Node)
  | links, place, pieces =>
    match t.advance followLast place pieces with
    | .arrived place node => .ok (place, node)
    | .refused error => .error error
    | .atLink directory target rest =>
      match links with
      | 0 => .error .tooManyLinks
      | links + 1 =>
        let start := if Path.anchorOf target = .relative then directory else []
        findFrom t followLast links start (Path.pieces target ++ rest)

/-- The place that a path leads to, and what stands there.  The directory that holds the place
exists; a link at the end is followed or not. -/
def find (t : Tree) (followLast : Bool) (path : Text) :
    Except SystemError (Location × Option Node) :=
  if path = [] then .error .noEntry
  else if nameSize path > pathLimit then .error .nameTooLong
  else
    let start := if Path.anchorOf path = .relative then t.workingDirectory else []
    t.findFrom followLast linkLimit start (Path.pieces path)

/-- What the system cannot even be asked about: a name with a surrogate that stands for no octet,
or with a NUL. -/
def checkPath (path : Text) : Except Fault Unit :=
  let bad := fun (c : CodePoint) => c.isSurrogate && !(0xDC80 ≤ c.val && c.val ≤ 0xDCFF)
  match firstStretch? bad 0 path with
  | some (culprit, position, count) =>
    .error (.unencodable ⟨"utf-8", culprit, position, count, "surrogates not allowed"⟩)
  | none => if path.any fun c => c.val == 0 then .error .embeddedNul else .ok ()

/-- The entry at the end of a path; its absence is a refusal. -/
def status (t : Tree) (followLast : Bool) (path : Text) : Except Fault (Location × Node) := do
  checkPath path
  match t.find followLast path with
  | .error error => .error (.system error path)
  | .ok (_, none) => .error (.system .noEntry path)
  | .ok (place, some node) => .ok (place, node)

/-! ## Tests -/

/-- Whether a fault only says that nothing can be reached at a path. -/
def meansAbsent : Fault → Bool
  | .system error _ => error == .noEntry || error == .notDirectory || error == .tooManyLinks
  | .embeddedNul | .unencodable _ => true
  | _ => false

/-- Whether anything with a property stands at the end of a path.  Refusals that do not mean
absence are passed on. -/
def test (t : Tree) (property : Node → Bool) (path : Text) : Except Fault Bool :=
  match t.status true path with
  | .ok (_, node) => .ok (property node)
  | .error fault => if meansAbsent fault then .ok false else .error fault

def entryExists (t : Tree) (path : Text) : Except Fault Bool := t.test (fun _ => true) path

def isDirectory (t : Tree) (path : Text) : Except Fault Bool := t.test (· == .directory) path

def isFile (t : Tree) (path : Text) : Except Fault Bool :=
  t.test (fun | .file _ => true | _ => false) path

/-- Whether something stands at the end of a path; every refusal counts as nothing. -/
def canReach (t : Tree) (path : Text) : Bool :=
  match t.status true path with
  | .ok _ => true
  | .error _ => false

/-- Whether a regular file stands at the end of a path; every refusal counts as none. -/
def hasFile (t : Tree) (path : Text) : Bool :=
  match t.status true path with
  | .ok (_, .file _) => true
  | _ => false

/-- Whether a directory stands at the end of a path; every refusal counts as none. -/
def canEnter (t : Tree) (path : Text) : Bool :=
  match t.status true path with
  | .ok (_, node) => node == .directory
  | .error _ => false

/-! ## Resolution -/

/-- The text of a path that is being resolved; empty where the program stands. -/
def reachedText (p : Path) : Text := if p.parts = [] ∧ p.anchor = .relative then [] else p.text

/-- The path above one that is being resolved. -/
def above (p : Path) : Path :=
  match p.parts.getLast? with
  | none => if p.isAbsolute then p else ⟨.relative, [Path.up]⟩
  | some last => if last = Path.up then ⟨p.anchor, p.parts ++ [Path.up]⟩ else p.parent

/-- A path followed by pieces that were not looked at. -/
def withRest (start : Text) (rest : List Text) : Text :=
  let rest := Text.joinWith "/" rest
  if Path.anchorOf rest ≠ .relative then rest
  else if start = [] ∨ start.getLast? = some ('/' : CodePoint) then start ++ rest
  else start ++ "/" ++ rest

/-- The links met so far, by the text that led to them, with the path each stands for; none while
it is being followed. -/
abbrev Followed := List (Text × Option Path)

/-- A resolved path, or the text at which a link led back into itself. -/
inductive Resolution where
  | resolved (path : Path) (followed : Followed)
  | looped (text : Text)

/-- Resolves pieces one after the other from a resolved path; `follow` resolves the target of a
link. -/
def resolvePieces (t : Tree) (follow : Followed → Path → List Text → Except Fault Resolution)
    (followed : Followed) (path : Path) : List Text → Except Fault Resolution
  | [] => .ok (.resolved path followed)
  | piece :: rest =>
    if piece = [] ∨ piece = Path.here then resolvePieces t follow followed path rest
    else if piece = Path.up then resolvePieces t follow followed (above path) rest
    else
      let next : Path := ⟨path.anchor, path.parts ++ [piece]⟩
      match checkPath next.text with
      | .error fault => .error fault
      | .ok () =>
        match t.find false next.text with
        | .ok (_, some (.link target)) =>
          match followed.lookup next.text with
          | some (some known) => resolvePieces t follow followed known rest
          | some none => .ok (.looped (withRest next.text rest))
          | none =>
            let start : Path := if Path.anchorOf target = .relative then path else ⟨.root, []⟩
            match follow ((next.text, none) :: followed) start (Path.pieces target) with
            | .error fault => .error fault
            | .ok (.looped text) => .ok (.looped (withRest text rest))
            | .ok (.resolved found followed) =>
              resolvePieces t follow ((next.text, some found) :: followed) found rest
        | _ => resolvePieces t follow followed next rest

/-- `resolvePieces` with a bound on links inside links. -/
def resolveWithin (t : Tree) : (depth : Nat) → Followed → Path → List Text →
    Except Fault Resolution
  | 0 => fun _ _ _ => .error (.tooDeep "maximum recursion depth exceeded")
  | depth + 1 => t.resolvePieces (resolveWithin t depth)

/-- How many links may be followed inside one another. -/
def resolveDepth : Nat := 960

/-- The place that a text stands for, links followed as far as they can be read. -/
def realPlace (t : Tree) (text : Text) : Except Fault Location :=
  let start : Path := if Path.anchorOf text = .relative then ⟨.relative, []⟩ else ⟨.root, []⟩
  match t.resolveWithin resolveDepth [] start (Path.pieces text) with
  | .error fault => .error fault
  | .ok (.looped text) => .ok (Location.ofText t.workingDirectory text)
  | .ok (.resolved path _) => .ok (Location.ofText t.workingDirectory (reachedText path))

/-- The place that a path stands for.  A link that leads back into itself is refused. -/
def resolve (t : Tree) (path : Path) : Except Fault Location :=
  match t.realPlace path.text with
  | .error fault => .error fault
  | .ok place =>
    match t.status true (Location.text place) with
    | .error (.system .tooManyLinks _) => .error (.linkLoop (Location.text place))
    | .error (.system _ _) | .ok _ => .ok place
    | .error fault => .error fault

end Tree

end ProseCompiler
