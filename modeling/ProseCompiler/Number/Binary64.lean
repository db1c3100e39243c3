import ProseCompiler.Number.Integer

/-!
# Binary floating point

Numbers of the 64-bit binary format, as their bits.  A finite number is a significand times a
power of two, so rounding, comparing and writing are exact arithmetic on natural numbers:

* `ofRatio` is the nearest number to a quotient, ties going to the even significand;
* `shortest` is the shortest decimal that reads back, and of those the nearest.
-/

namespace ProseCompiler

/-- A number of the 64-bit binary format. -/
structure Binary64 where
  bits : UInt64
deriving DecidableEq, Repr

namespace Binary64

/-- What the bits stand for. -/
inductive View where
  | nan
  | infinite (negative : Bool)
  | finite (negative : Bool) (significand : Nat) (exponent : Int)
deriving DecidableEq, Repr

/-- The number that the bits stand for; a finite one is `significand * 2 ^ exponent`. -/
def view (x : Binary64) : View :=
  let n := x.bits.toNat
  let negative : Bool := Nat.pow 2 63 ≤ n
  let biased : Nat := n / Nat.pow 2 52 % Nat.pow 2 11
  let fraction : Nat := n % Nat.pow 2 52
  if biased = 2047 then if fraction = 0 then .infinite negative else .nan
  else if biased = 0 then .finite negative fraction (-1074)
  else .finite negative (Nat.pow 2 52 + fraction) ((biased : Int) - 1075)

def isNan (x : Binary64) : Bool := x.view == .nan

/-- A magnitude with a sign. -/
def withSign (negative : Bool) (magnitude : Nat) : Binary64 :=
  ⟨UInt64.ofNat (if negative then magnitude + Nat.pow 2 63 else magnitude)⟩

/-- The bits of positive infinity. -/
def infinityBits : Nat := 2047 * Nat.pow 2 52

def infinity (negative : Bool) : Binary64 := withSign negative infinityBits

/-- The canonical number that is no number. -/
def nan : Binary64 := ⟨0x7FF8000000000000⟩

def zero (negative : Bool) : Binary64 := withSign negative 0

/-! ## Rounding -/

/-- `numerator / denominator` rounded to the nearest integer, ties to even. -/
def roundDiv (numerator denominator : Nat) : Nat :=
  let q := numerator / denominator
  let r := numerator % denominator
  if 2 * r > denominator ∨ (2 * r = denominator ∧ q % 2 = 1) then q + 1 else q

/-- The largest `k` with `2 ^ k ≤ numerator / denominator`, for a positive quotient. -/
def floorLog (numerator denominator : Nat) : Int :=
  let k : Int := (numerator.log2 : Int) - denominator.log2
  if numerator * Nat.pow 2 (-k).toNat < denominator * Nat.pow 2 k.toNat then k - 1 else k

/-- The nearest number to a quotient. -/
def ofRatio (negative : Bool) (numerator denominator : Nat) : Binary64 :=
  if numerator = 0 then zero negative
  else
    let k := floorLog numerator denominator
    if k > 1100 then infinity negative
    else if k < -1200 then zero negative
    else
      let e : Int := max (k - 52) (-1074)
      let q := roundDiv (numerator * Nat.pow 2 (-e).toNat) (denominator * Nat.pow 2 e.toNat)
      let magnitude := (e + 1074).toNat * Nat.pow 2 52 + q
      if magnitude ≥ infinityBits then infinity negative else withSign negative magnitude

/-- The nearest number to `significand * 10 ^ exponent`. -/
def ofDecimal (negative : Bool) (significand : Nat) (exponent : Int) : Binary64 :=
  if significand = 0 then zero negative
  else
    let digits : Int := (Text.ofNat significand).length
    if exponent + digits > 400 then infinity negative
    else if exponent + digits < -400 then zero negative
    else ofRatio negative (significand * Nat.pow 10 exponent.toNat) (Nat.pow 10 (-exponent).toNat)

/-- The nearest number to an integer, if there is a finite one. -/
def ofInt? (i : Int) : Option Binary64 :=
  let x := ofRatio (i < 0) i.natAbs 1
  match x.view with
  | .infinite _ => none
  | _ => some x

/-- The integer that a finite number becomes without its fraction. -/
def truncate? (x : Binary64) : Option Int :=
  match x.view with
  | .finite negative m e =>
    let n : Int := ((m * Nat.pow 2 e.toNat / Nat.pow 2 (-e).toNat : Nat) : Int)
    some (if negative then -n else n)
  | _ => none

/-- Whether the number is zero or less; the number that is none is not. -/
def isNonPositive (x : Binary64) : Bool :=
  match x.view with
  | .nan => false
  | .infinite negative => negative
  | .finite negative m _ => negative || m == 0

/-- Whether the number is neither zero nor undefined. -/
def isNonZero (x : Binary64) : Bool :=
  match x.view with
  | .finite _ m _ => m != 0
  | _ => true

/-! ## Reading -/

/-- A decimal split into its digits and a power of ten, and what follows it.  Low lines are gone
already. -/
def decimal? (t : Text) : Option (Nat × Int × Text) :=
  let whole := t.takeWhile CodePoint.isDigit
  let afterWhole := t.dropWhile CodePoint.isDigit
  let (part, afterPart) := match afterWhole with
    | c :: rest =>
      if c = '.' then (rest.takeWhile CodePoint.isDigit, rest.dropWhile CodePoint.isDigit)
      else ([], afterWhole)
    | [] => ([], [])
  if whole.isEmpty ∧ part.isEmpty then none
  else
    let value := Number.ofDigits ((whole ++ part).map fun c => c.val - 0x30)
    let shift : Int := -(part.length : Int)
    match afterPart with
    | c :: rest =>
      if c = 'e' ∨ c = 'E' then
        let (negative, body) := Number.sign rest
        let digits := body.takeWhile CodePoint.isDigit
        if digits.isEmpty then some (value, shift, afterPart)
        else
          let e : Int := Number.ofDigits (digits.map fun c => c.val - 0x30)
          some (value, shift + (if negative then -e else e), body.dropWhile CodePoint.isDigit)
      else some (value, shift, afterPart)
    | [] => some (value, shift, [])

/-- The text without its low lines, each of which has to stand between two digits. -/
def withoutLowLines? (before : Option CodePoint) : Text → Option Text
  | [] => some []
  | c :: rest =>
    if c = '_' then
      match before, rest with
      | some b, d :: _ =>
        if b.isDigit ∧ d.isDigit then withoutLowLines? (some c) rest else none
      | _, _ => none
    else (withoutLowLines? (some c) rest).map (c :: ·)

/-- The nearest number to a decimal, or the number a name stands for; blanks around it aside. -/
def ofText? (t : Text) : Option Binary64 :=
  match withoutLowLines? none (Number.bare (Number.plainDigits t)) with
  | none => none
  | some plain =>
    let (negative, body) := Number.sign plain
    let name := Text.lowerAscii body
    if name = "inf" ∨ name = "infinity" then some (infinity negative)
    else if name = "nan" then some (withSign negative nan.bits.toNat)
    else
      match decimal? body with
      | some (value, exponent, []) => some (ofDecimal negative value exponent)
      | _ => none

/-! ## Writing -/

/-- The number of decimal digits before the point of `numerator / denominator`: the least `k` with
`numerator / denominator < 10 ^ k`, for a positive quotient. -/
def decimalPoint (numerator denominator : Nat) : Int :=
  let guess : Int := floorLog numerator denominator * 30103 / 100000
  let below := fun (k : Int) => numerator * Nat.pow 10 (-k).toNat < denominator * Nat.pow 10 k.toNat
  if below guess then guess
  else if below (guess + 1) then guess + 1
  else guess + 2

/-- The decimals with `count` digits on either side of a quotient, the nearer one first, in units
of `10 ^ (point - count)`. -/
def neighbours (numerator denominator : Nat) (point : Int) (count : Nat) : List Nat :=
  let e : Int := point - count
  let n := numerator * Nat.pow 10 (-e).toNat
  let d := denominator * Nat.pow 10 e.toNat
  let q := n / d
  if roundDiv n d = q then [q, q + 1] else [q + 1, q]

/-- The shortest digits that read back as a positive finite number, and the place of the decimal
point before them. -/
def shortestWithin (x : Binary64) (numerator denominator : Nat) (point : Int) :
    Nat → Nat → Nat × Int
  | count, 0 => (roundDiv (numerator * Nat.pow 10 (-(point - count)).toNat)
      (denominator * Nat.pow 10 (point - count).toNat), point - count)
  | count, more + 1 =>
    match (neighbours numerator denominator point count).find? fun digits =>
        ofDecimal false digits (point - count) == x with
    | some digits => (digits, point - count)
    | none => shortestWithin x numerator denominator point (count + 1) more

/-- The shortest decimal `digits * 10 ^ exponent` that reads back as `m * 2 ^ e`. -/
def shortest (m : Nat) (e : Int) : Nat × Int :=
  let numerator := m * Nat.pow 2 e.toNat
  let denominator := Nat.pow 2 (-e).toNat
  shortestWithin (ofRatio false numerator denominator) numerator denominator
    (decimalPoint numerator denominator) 1 16

/-- Digits without the zeros at their end. -/
def withoutTrailingZeros (digits : Text) : Text :=
  (digits.reverse.dropWhile fun (c : CodePoint) => c = '0').reverse

/-- An exponent of at least two digits, with its sign. -/
def exponentText (e : Int) : Text :=
  (if e < 0 then "-" else "+" : Text) ++ Text.padLeft 2 '0' (Text.ofNat e.natAbs)

/-- Significant digits written out, the decimal point standing after `point` of them: positional
from `10 ^ -4` to below `10 ^ 16`, with an exponent elsewhere. -/
def layOut (digits : Text) (point : Int) : Text :=
  if -4 < point ∧ point ≤ 16 then
    if point ≤ 0 then "0." ++ Text.fill (-point).toNat '0' ++ digits
    else if (digits.length : Int) ≤ point then
      digits ++ Text.fill (point.toNat - digits.length) '0' ++ ".0"
    else digits.take point.toNat ++ "." ++ digits.drop point.toNat
  else
    digits.take 1 ++ (if digits.length > 1 then ("." : Text) ++ digits.drop 1 else []) ++ "e" ++
      exponentText (point - 1)

/-- The shortest text that reads back. -/
def text (x : Binary64) : Text :=
  match x.view with
  | .nan => "nan"
  | .infinite negative => if negative then "-inf" else "inf"
  | .finite negative m e =>
    let magnitude : Text :=
      if m = 0 then "0.0"
      else
        let (digits, exponent) := shortest m e
        let all := Text.ofNat digits
        layOut (withoutTrailingZeros all) (exponent + all.length)
    if negative then ('-' : CodePoint) :: magnitude else magnitude

end Binary64

end ProseCompiler
