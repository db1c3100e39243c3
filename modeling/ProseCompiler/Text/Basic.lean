/-!
# Texts

A text is a list of code points.  A code point is any number below `0x110000`, so a text can
hold a lone surrogate: such texts come out of JSON escapes, and the places that cannot store or
send them have to say so.

This module holds the type, the way string literals become texts, and the operations that need
no character class: joining, splitting, searching and the order by code point.
-/

namespace ProseCompiler

/-- A Unicode code point, lone surrogates included. -/
structure CodePoint where
  val : Nat
  isLt : val < 0x110000
deriving DecidableEq, Repr

namespace CodePoint

/-- The code point of a character. -/
def ofChar (c : Char) : CodePoint :=
  ⟨c.toNat, by
    have := c.valid
    simp only [Char.toNat, UInt32.isValidChar, Nat.isValidChar] at *
    omega⟩

/-- The code point with a given number; a number that is too large gives U+FFFD. -/
def ofNat (n : Nat) : CodePoint :=
  if h : n < 0x110000 then ⟨n, h⟩ else ⟨0xFFFD, by decide⟩

instance : Coe Char CodePoint := ⟨ofChar⟩

instance : Inhabited CodePoint := ⟨' '⟩

/-- Half of a surrogate pair: a code point that no Unicode encoding form can carry alone. -/
def isSurrogate (c : CodePoint) : Bool := 0xD800 ≤ c.val && c.val ≤ 0xDFFF

/-- One of the digits 0 to 9. -/
def isDigit (c : CodePoint) : Bool := 0x30 ≤ c.val && c.val ≤ 0x39

/-- One of the letters A to Z, of either case. -/
def isLetter (c : CodePoint) : Bool :=
  (0x41 ≤ c.val && c.val ≤ 0x5A) || (0x61 ≤ c.val && c.val ≤ 0x7A)

/-- A letter or digit of ASCII, or the low line. -/
def isWordPart (c : CodePoint) : Bool := c.isDigit || c.isLetter || c.val == 0x5F

theorem ofChar_val (c : Char) : (ofChar c).val = c.toNat := rfl

theorem ext {a b : CodePoint} (h : a.val = b.val) : a = b := by
  cases a; cases b; simp_all

/-- A code point is the one with its own number. -/
theorem ofNat_eq {c : CodePoint} {n : Nat} (h : n = c.val) : ofNat n = c := by
  subst h
  rw [ofNat, dif_pos c.isLt]

end CodePoint

/-- A sequence of code points. -/
abbrev Text := List CodePoint

/-- A sequence of octets. -/
abbrev Bytes := List UInt8

instance : Coe String Text := ⟨fun s => s.toList.map CodePoint.ofChar⟩

namespace Text

/-- The text of a string. -/
def ofString (s : String) : Text := s

/-- The line feed that ends a line. -/
def newline : CodePoint := '\n'

/-! ## Order -/

/-- Whether one text comes before another, or equals it, by code points. -/
def le : Text → Text → Bool
  | [], _ => true
  | _ :: _, [] => false
  | a :: s, b :: t => if a.val < b.val then true else if b.val < a.val then false else le s t

/-- The texts in the order of their code points. -/
def sort (ts : List Text) : List Text := ts.mergeSort le

/-! ## Parts of a text -/

/-- The pieces between the occurrences of a separator; always at least one. -/
def splitOn (separator : CodePoint) (t : Text) : List Text :=
  t.foldr
    (fun c pieces =>
      if c = separator then [] :: pieces
      else match pieces with
        | [] => [[c]]
        | piece :: rest => (c :: piece) :: rest)
    [[]]

/-- The texts one after the other, with a separator between neighbours. -/
def joinWith (separator : Text) : List Text → Text
  | [] => []
  | [t] => t
  | t :: ts => t ++ separator ++ joinWith separator ts

/-- Whether the text begins with a given one. -/
def startsWith (t start : Text) : Bool := start.isPrefixOf t

/-- Whether the text ends with a given one. -/
def endsWith (t ending : Text) : Bool := ending.isSuffixOf t

/-- What follows a given beginning, if the text has it. -/
def afterStart? : Text → Text → Option Text
  | t, [] => some t
  | [], _ :: _ => none
  | c :: t, d :: start => if c = d then afterStart? t start else none

/-- Whether one text occurs inside another. -/
def hasPart (part : Text) : Text → Bool
  | [] => part.isEmpty
  | c :: t => part.isPrefixOf (c :: t) || hasPart part t

/-- The text before and after the first occurrence of a separator. -/
def cutAt? (separator : CodePoint) : Text → Option (Text × Text)
  | [] => none
  | c :: t =>
    if c = separator then some ([], t)
    else (cutAt? separator t).map fun (before, after) => (c :: before, after)

theorem cutAt?_length {separator : CodePoint} {t before after : Text}
    (h : cutAt? separator t = some (before, after)) : after.length < t.length := by
  induction t generalizing before after with
  | nil => simp [cutAt?] at h
  | cons c t ih =>
    simp only [cutAt?] at h
    split at h
    · simp only [Option.some.injEq, Prod.mk.injEq] at h
      simp [← h.2]
    · simp only [Option.map_eq_some_iff, Prod.mk.injEq] at h
      obtain ⟨⟨b, a⟩, ht, -, rfl⟩ := h
      have := ih ht
      simp only [List.length_cons]
      omega

/-- The text before and after the last occurrence of a separator. -/
def cutAtLast? (separator : CodePoint) (t : Text) : Option (Text × Text) :=
  (cutAt? separator t.reverse).map fun (after, before) => (before.reverse, after.reverse)

/-- The text with the ASCII letters in upper case. -/
def upperAscii (t : Text) : Text :=
  t.map fun c => if 0x61 ≤ c.val ∧ c.val ≤ 0x7A then CodePoint.ofNat (c.val - 0x20) else c

/-- The text with the ASCII letters in lower case. -/
def lowerAscii (t : Text) : Text :=
  t.map fun c => if 0x41 ≤ c.val ∧ c.val ≤ 0x5A then CodePoint.ofNat (c.val + 0x20) else c

/-- `replaceAll`, with a number of code points that belong to a part already replaced. -/
def replaceFrom (part new : Text) : (skipped : Nat) → Text → Text
  | _, [] => []
  | skipped + 1, _ :: t => replaceFrom part new skipped t
  | 0, c :: t =>
    if part.isPrefixOf (c :: t) then new ++ replaceFrom part new (part.length - 1) t
    else c :: replaceFrom part new 0 t

/-- The text with another text in the place of every occurrence of a part that is not empty. -/
def replaceAll (part new t : Text) : Text := replaceFrom part new 0 t

/-! ## Padding -/

/-- `n` copies of one code point. -/
def fill (n : Nat) (c : CodePoint) : Text := List.replicate n c

/-- The text, followed by spaces up to a width. -/
def padRight (width : Nat) (t : Text) : Text := t ++ fill (width - t.length) ' '

/-- The text, preceded by a filler up to a width. -/
def padLeft (width : Nat) (filler : CodePoint) (t : Text) : Text :=
  fill (width - t.length) filler ++ t

/-! ## Numerals -/

/-- The digit of a value below 16, lower case. -/
def digit (n : Nat) : CodePoint :=
  CodePoint.ofNat (if n < 10 then 0x30 + n else 0x57 + n)

/-- The digits of a number, least significant first, at most `count` of them. -/
def digitsUpTo (base : Nat) : Nat → Nat → Text
  | 0, _ => []
  | count + 1, n => if n < base then [digit n] else digit (n % base) :: digitsUpTo base count (n / base)

/-- The digits of a number in a base of at least two. -/
def ofNatBase (base n : Nat) : Text := (digitsUpTo base (n.log2 + 1) n).reverse

/-- The decimal digits of a number. -/
def ofNat (n : Nat) : Text := (Nat.repr n : String)

/-- A number in hexadecimal, with leading zeros up to a width. -/
def hex (width n : Nat) : Text := padLeft width '0' (ofNatBase 16 n)

end Text

end ProseCompiler
