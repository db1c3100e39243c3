import ProseCompiler.Text.Blank

/-!
# Integers as text

Reading and writing of whole numbers.  A numeral may use the decimal digits of any script and a
single low line between two digits; at most 4300 digits are read.
-/

namespace ProseCompiler

namespace CodePoint

/-- The zero of each script that has decimal digits; the nine others follow it. -/
def digitZeros : List Nat :=
  [0x30, 0x660, 0x6f0, 0x7c0, 0x966, 0x9e6, 0xa66, 0xae6, 0xb66, 0xbe6, 0xc66, 0xce6, 0xd66,
   0xde6, 0xe50, 0xed0, 0xf20, 0x1040, 0x1090, 0x17e0, 0x1810, 0x1946, 0x19d0, 0x1a80, 0x1a90,
   0x1b50, 0x1bb0, 0x1c40, 0x1c50, 0xa620, 0xa8d0, 0xa900, 0xa9d0, 0xa9f0, 0xaa50, 0xabf0,
   0xff10, 0x104a0, 0x10d30, 0x11066, 0x110f0, 0x11136, 0x111d0, 0x112f0, 0x11450, 0x114d0,
   0x11650, 0x116c0, 0x11730, 0x118e0, 0x11950, 0x11c50, 0x11d50, 0x11da0, 0x16a60, 0x16ac0,
   0x16b50, 0x1d7ce, 0x1d7d8, 0x1d7e2, 0x1d7ec, 0x1d7f6, 0x1e140, 0x1e2f0, 0x1e950, 0x1fbf0]

/-- The value of a decimal digit of any script. -/
def digitValue? (c : CodePoint) : Option Nat :=
  digitZeros.findSome? fun first =>
    if first ≤ c.val ∧ c.val ≤ first + 9 then some (c.val - first) else none

end CodePoint

namespace Number

/-- The number of digits that a numeral may have. -/
def digitLimit : Nat := 4300

/-- The number that decimal digits spell, most significant first. -/
def ofDigits (digits : List Nat) : Nat := digits.foldl (fun n d => 10 * n + d) 0

/-- The text with the decimal digits of every script written as 0 to 9. -/
def plainDigits (t : Text) : Text :=
  t.map fun c => if c.val < 0x80 then c else ((c.digitValue?).map Text.digit).getD c

/-- The digits of a numeral; a low line may stand between two of them. -/
def digits? (afterDigit : Bool) : Text → Option (List Nat)
  | [] => if afterDigit then some [] else none
  | c :: rest =>
    if c.isDigit then (digits? true rest).map fun digits => (c.val - 0x30) :: digits
    else if c = '_' ∧ afterDigit = true then
      match rest with
      | d :: _ => if d.isDigit then digits? false rest else none
      | [] => none
    else none

/-- A sign and what follows it; the flag is set for a minus. -/
def sign : Text → Bool × Text
  | [] => (false, [])
  | c :: rest => if c = '-' then (true, rest) else if c = '+' then (false, rest) else (false, c :: rest)

/-- A blank that may stand around a numeral: the separators U+001C to U+001F may not. -/
def isBlankAround (c : CodePoint) : Bool := c.isBlank && !(0x1C ≤ c.val && c.val ≤ 0x1F)

/-- A numeral without the blanks at either end. -/
def bare (t : Text) : Text :=
  ((t.dropWhile isBlankAround).reverse.dropWhile isBlankAround).reverse

/-- The integer that a numeral spells, blanks around it aside. -/
def integer? (t : Text) : Option Int :=
  let (negative, body) := sign (plainDigits (bare t))
  match digits? false body with
  | none => none
  | some digits =>
    if digits.length > digitLimit then none
    else
      let n : Int := ofDigits digits
      some (if negative then -n else n)

/-- The decimal numeral of an integer. -/
def ofInt (i : Int) : Text :=
  if i < 0 then ('-' : CodePoint) :: Text.ofNat i.natAbs else Text.ofNat i.natAbs

end Number

end ProseCompiler
