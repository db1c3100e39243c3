import ProseCompiler.Document.Language

/-!
# The template of a new document

A document to start from: a header that names the language and the output file, and a sentence
to fill in.
-/

namespace ProseCompiler.Template

/-- What stands below the header. -/
def body : Text := "Create a simple program that does the following:\n1.\n2.\n3.\n\n"

/-- The document for a program called `stem`. -/
def render (stem language : Text) : Text :=
  "@language: " ++ language ++ "\n@output: " ++ stem ++ "." ++ Language.extension language ++
    "\n\n" ++ body

end ProseCompiler.Template
