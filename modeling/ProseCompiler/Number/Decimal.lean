import ProseCompiler.Number.Binary64

/-!
# Decimals of a given precision

Three ways of writing a number of the binary format with as many digits as are asked for.  The
digits are those of the number itself, rounded once; a tie goes to the even digit.
-/

namespace ProseCompiler.Binary64

/-- A finite magnitude as a quotient. -/
def quotient (m : Nat) (e : Int) : Nat × Nat := (m * Nat.pow 2 e.toNat, Nat.pow 2 (-e).toNat)

/-- `numerator / denominator`, times a power of ten, rounded to an integer. -/
def scaled (numerator denominator : Nat) (power : Int) : Nat :=
  roundDiv (numerator * Nat.pow 10 power.toNat) (denominator * Nat.pow 10 (-power).toNat)

/-- Digits with a point before the last `places` of them; a point without digits behind it is
written only if it is to be kept. -/
def pointed (keepsPoint : Bool) (places : Nat) (digits : Text) : Text :=
  let digits := Text.padLeft (places + 1) '0' digits
  let whole := digits.take (digits.length - places)
  let part := digits.drop (digits.length - places)
  if part = [] ∧ keepsPoint = false then whole else whole ++ "." ++ part

/-- A magnitude with a number of digits behind the point. -/
def fixed (keepsPoint : Bool) (places m : Nat) (e : Int) : Text :=
  let (numerator, denominator) := quotient m e
  pointed keepsPoint places (Text.ofNat (scaled numerator denominator places))

/-- The digits of a magnitude, one more than `places`, and the exponent of the first of them. -/
def significant (places m : Nat) (e : Int) : Nat × Int :=
  if m = 0 then (0, 0)
  else
    let (numerator, denominator) := quotient m e
    let point := decimalPoint numerator denominator
    let digits := scaled numerator denominator (places + 1 - point)
    if digits = Nat.pow 10 (places + 1) then (Nat.pow 10 places, point) else (digits, point - 1)

/-- A magnitude with one digit before the point, a number of digits behind it, and an exponent. -/
def scientific (keepsPoint : Bool) (places m : Nat) (e : Int) : Text :=
  let (digits, exponent) := significant places m e
  pointed keepsPoint places (Text.padLeft (places + 1) '0' (Text.ofNat digits)) ++ "e" ++
    exponentText exponent

/-- Digits without the zeros behind the point, and without a point that then ends them. -/
def withoutIdleZeros (t : Text) : Text :=
  if t.contains ('.' : CodePoint) then
    let kept := (t.reverse.dropWhile fun (c : CodePoint) => c = '0')
    (match kept with
      | c :: rest => if c = '.' then rest else c :: rest
      | [] => []).reverse
  else t

/-- A magnitude with a number of significant digits: positional if its exponent allows it, and
without idle zeros unless all digits are to be kept. -/
def general (keepsAll : Bool) (digits m : Nat) (e : Int) : Text :=
  let digits := max digits 1
  let exponent := (significant (digits - 1) m e).2
  if -4 ≤ exponent ∧ exponent < digits then
    let t := fixed keepsAll (digits - 1 - exponent).toNat m e
    if keepsAll then t else withoutIdleZeros t
  else
    let t := scientific keepsAll (digits - 1) m e
    if keepsAll then t
    else
      let mantissa := t.takeWhile fun (c : CodePoint) => c ≠ 'e'
      withoutIdleZeros mantissa ++ t.drop mantissa.length

end ProseCompiler.Binary64
