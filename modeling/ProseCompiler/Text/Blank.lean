import ProseCompiler.Text.Basic

/-!
# Blank space

Which code points are blank, and what is left of a text without the blanks at its ends.
-/

namespace ProseCompiler

namespace CodePoint

/-- White space as Unicode's bidirectional classes and separator category have it: the controls
U+0009 to U+000D and U+001C to U+001F, the next-line control, and the spaces and line ends beyond
ASCII.  The zero-width space and the byte order mark are not blank. -/
def isBlank (c : CodePoint) : Bool :=
  let n := c.val
  (0x09 ≤ n && n ≤ 0x0D) || (0x1C ≤ n && n ≤ 0x20) || n == 0x85 || n == 0xA0 || n == 0x1680 ||
    (0x2000 ≤ n && n ≤ 0x200A) || n == 0x2028 || n == 0x2029 || n == 0x202F || n == 0x205F ||
    n == 0x3000

end CodePoint

namespace Text

/-- The text from its first code point that is not blank. -/
def trimLeft (t : Text) : Text := t.dropWhile CodePoint.isBlank

/-- The text up to its last code point that is not blank. -/
def trimRight (t : Text) : Text := (t.reverse.dropWhile CodePoint.isBlank).reverse

/-- The text without the blanks at either end. -/
def trim (t : Text) : Text := trimRight (trimLeft t)

/-- Whether every code point is blank. -/
def isBlank (t : Text) : Bool := t.all CodePoint.isBlank

end Text

end ProseCompiler
