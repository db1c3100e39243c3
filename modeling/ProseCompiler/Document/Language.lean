import ProseCompiler.Text.Blank
import ProseCompiler.Text.Case

/-!
# Target languages

The name of a language is free text.  Known names have a file extension of their own; every other
name has the extension of plain text.
-/

namespace ProseCompiler.Language

/-- The known names, in lower case, with their file extensions. -/
def extensions : List (Text × Text) :=
  [("javascript", "js"), ("typescript", "ts"), ("python", "py"), ("java", "java"), ("c#", "cs"),
   ("csharp", "cs"), ("c++", "cpp"), ("cpp", "cpp"), ("c", "c"), ("go", "go"), ("rust", "rs"),
   ("ruby", "rb"), ("php", "php"), ("swift", "swift"), ("kotlin", "kt"), ("html", "html"),
   ("css", "css")]

/-- The extension of a language without a known name. -/
def plainExtension : Text := "txt"

/-- A name without the blanks around it and in lower case. -/
def normal (name : Text) : Text := (Text.trim name).lower

/-- The file extension of a language, whatever the case of its name and the blanks around it. -/
def extension (name : Text) : Text := (extensions.lookup (normal name)).getD plainExtension

end ProseCompiler.Language
