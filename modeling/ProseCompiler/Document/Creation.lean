import ProseCompiler.CompilerError
import ProseCompiler.Document.Template
import ProseCompiler.Files.Operations

/-!
# New documents

Writing a document to start from.  A name without the documents' extension gets it, directories
are made as needed, and nothing that exists is overwritten.
-/

namespace ProseCompiler.Creation

/-- The path of a new document, its extension appended if it is missing. -/
def withExtension (path : Path) (extension : Text) : Except Fault Path :=
  if Text.endsWith path.name extension then .ok path
  else path.withName (path.name ++ extension)

/-- The name of a document's program: what stands before the last characters, as many as the
extension has.  An empty extension leaves nothing. -/
def stem (name extension : Text) : Text :=
  if extension = [] then [] else name.take (name.length - extension.length)

/-- Where a new document goes: a place where nothing stands. -/
def destination (tree : Tree) (path : Path) (extension : Text) : Except Problem Location :=
  match withExtension path extension with
  | .error fault => .error (.unexpected fault)
  | .ok path =>
    match tree.resolve path with
    | .error fault => .error (.unexpected fault)
    | .ok place =>
      match tree.entryExists (Location.text place) with
      | .error fault => .error (.unexpected fault)
      | .ok true => .error (.reported (.documentExists (Location.text place)))
      | .ok false => .ok place

/-- Writes a new document and gives its place. -/
def create (tree : Tree) (path : Path) (language extension : Text) :
    Tree × Except Problem Location :=
  match destination tree path extension with
  | .error problem => (tree, .error problem)
  | .ok place =>
    let content := Template.render (stem (Location.name place) extension) language
    match tree.provide (Path.ofLocation (Location.parent place)) with
    | (tree, .error fault) => (tree, .error (.unexpected fault))
    | (tree, .ok ()) =>
      match tree.writeText (Location.text place) content with
      | (tree, .error fault) => (tree, .error (.unexpected fault))
      | (tree, .ok ()) => (tree, .ok place)

/-- A call for a new document. -/
structure Call where
  path : Path
  language : Text
  extension : Text

/-- Answers calls one after the other; one that fails does not stop the others. -/
def createAll (tree : Tree) : List Call → Tree × List (Except Problem Location)
  | [] => (tree, [])
  | call :: rest =>
    let (tree, result) := create tree call.path call.language call.extension
    let (tree, results) := createAll tree rest
    (tree, result :: results)

end ProseCompiler.Creation
