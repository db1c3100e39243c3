import ProseCompiler.Document.Header
import ProseCompiler.Document.Language
import ProseCompiler.Files.Lookup

/-!
# Targets

What a document compiles to: a language, and the place of the output file.  The header decides
both where it says something; otherwise the language is the default one and the output stands
beside the document, with the extension of the language.
-/

namespace ProseCompiler

/-- The language and the output file of a document. -/
structure Target where
  language : Text
  output : Location
deriving DecidableEq, Repr

namespace Target

/-- The language that a document is compiled to. -/
def languageOf (document : Document) (defaultLanguage : Text) : Text :=
  Language.normal ((document.language?).getD defaultLanguage)

/-- The output file of a document at a given place.  A relative file name counts from the
document's directory. -/
def outputOf (tree : Tree) (document : Document) (place : Location) (language : Text) :
    Except Fault Location :=
  match document.output? with
  | some output =>
    tree.resolve ((Path.ofLocation (Location.parent place)).join (Path.ofText output))
  | none =>
    ((Path.ofLocation place).withSuffix ("." ++ Language.extension language)).map Path.parts

/-- The target of the document at a path. -/
def resolve (tree : Tree) (document : Document) (path : Path) (defaultLanguage : Text) :
    Except Fault Target :=
  match tree.resolve path with
  | .error fault => .error fault
  | .ok place =>
    let language := languageOf document defaultLanguage
    match outputOf tree document place language with
    | .error fault => .error fault
    | .ok output => .ok { language, output }

end Target

end ProseCompiler
