import ProseCompiler.Text.Basic

/-!
# Lines

Lines of a text, and the reading of the three customary line ends as one.
-/

namespace ProseCompiler.Text

/-- The lines of a text; a line feed separates two of them. -/
def lines (t : Text) : List Text := splitOn newline t

/-- The text with given lines. -/
def unlines (ls : List Text) : Text := joinWith [newline] ls

/-- `unifyNewlines` on a text that stands behind a carriage return, or behind something else. -/
def unifyNewlinesFrom (afterReturn : Bool) : Text → Text
  | [] => []
  | c :: t =>
    if c = '\r' then newline :: unifyNewlinesFrom true t
    else if c = newline ∧ afterReturn = true then unifyNewlinesFrom false t
    else c :: unifyNewlinesFrom false t

/-- The text in which every carriage return, and every carriage return with a line feed behind
it, is one line feed. -/
def unifyNewlines (t : Text) : Text := unifyNewlinesFrom false t

end ProseCompiler.Text
