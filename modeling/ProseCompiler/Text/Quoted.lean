import ProseCompiler.Text.Basic
import ProseCompiler.Text.PrintableTable

/-!
# Quoted texts

How a text is shown inside a message: between quotes, on one line, with everything invisible
written by number.  The quotes are single, or double when the text holds a single quote and no
double one.
-/

namespace ProseCompiler

namespace CodePoint

/-- Whether a code point is shown as itself. -/
def isPrintable (c : CodePoint) : Bool :=
  !PrintableTable.hiddenRanges.any fun (first, last) => first ≤ c.val && c.val ≤ last

/-- A code point by its number, in the shortest of the three lengths that holds it. -/
def numbered (c : CodePoint) : Text :=
  if c.val < 0x100 then "\\x" ++ Text.hex 2 c.val
  else if c.val < 0x10000 then "\\u" ++ Text.hex 4 c.val
  else "\\U" ++ Text.hex 8 c.val

/-- One code point between quotes of a given kind. -/
def quotedIn (quote c : CodePoint) : Text :=
  if c = quote ∨ c = '\\' then ['\\', c]
  else if c = '\t' then "\\t"
  else if c = '\n' then "\\n"
  else if c = '\r' then "\\r"
  else if c.val < 0x20 ∨ c.val = 0x7F then c.numbered
  else if c.val < 0x7F ∨ c.isPrintable then [c]
  else c.numbered

end CodePoint

namespace Text

/-- The quote that surrounds a text. -/
def quoteFor (t : Text) : CodePoint :=
  if t.contains ('\'' : CodePoint) && !t.contains ('"' : CodePoint) then '"' else '\''

/-- The text between quotes. -/
def quoted (t : Text) : Text :=
  let quote := quoteFor t
  [quote] ++ t.flatMap (CodePoint.quotedIn quote) ++ [quote]

end Text

end ProseCompiler
