import ProseCompiler.Encoding.Utf8

/-!
# Punycode

How a text is written in ASCII: first its ASCII characters, then, behind a dash, numbers that say
which others stand where.  Names of hosts are written so, and a media type may declare that a
body is.
-/

namespace ProseCompiler.Punycode

/-- The bias after a code point was handled. -/
def adapt (delta count : Nat) (first : Bool) : Nat :=
  let rec shrink : Nat → Nat → Nat → Nat
    | 0, k, delta => k + 36 * delta / (delta + 38)
    | fuel + 1, k, delta =>
      if delta > 455 then shrink fuel (k + 36) (delta / 35) else k + 36 * delta / (delta + 38)
  let delta := if first then delta / 700 else delta / 2
  let delta := delta + delta / count
  shrink (delta.log2 + 1) 0 delta

/-- The least digit that another one follows, at a distance from the start of a number. -/
def threshold (bias k : Nat) : Nat :=
  if k ≤ bias then 1 else if k ≥ bias + 26 then 26 else k - bias

/-! ## Writing -/

/-- A digit of the encoding: letters, then digits. -/
def puny (n : Nat) : CodePoint := CodePoint.ofNat (if n < 26 then 0x61 + n else 0x16 + n)

/-- A number in digits whose weight depends on the bias. -/
def digits (bias : Nat) : (fuel k q : Nat) → Text
  | 0, _, q => [puny q]
  | fuel + 1, k, q =>
    let t := threshold bias k
    if q < t then [puny q]
    else puny (t + (q - t) % (36 - t)) :: digits bias fuel (k + 36) ((q - t) / (36 - t))

/-- The ASCII form of a label: its ASCII characters, then where the others stand. -/
def ofLabel (label : Text) : Text :=
  let basic := label.filter fun c => c.val < 0x80
  let wide := ((label.filter fun c => c.val ≥ 0x80).map fun c => c.val).eraseDups.mergeSort
  let start : Text := if basic.isEmpty then [] else basic ++ "-"
  let pass := fun (state : Text × Nat × Nat × Nat × Nat) (m : Nat) =>
    let (out, n, delta, bias, handled) := state
    let delta := delta + (m - n) * (handled + 1)
    let (out, delta, bias, handled) := label.foldl
      (fun (state : Text × Nat × Nat × Nat) c =>
        let (out, delta, bias, handled) := state
        if c.val < m then (out, delta + 1, bias, handled)
        else if c.val = m then
          (out ++ digits bias 40 36 delta, 0,
            adapt delta (handled + 1) (handled == basic.length), handled + 1)
        else state)
      (out, delta, bias, handled)
    (out, m + 1, delta + 1, bias, handled)
  (wide.foldl pass (start, 0x80, 0, 72, basic.length)).1

/-! ## Reading -/

/-- The value of a digit, in either case. -/
def digit? (octet : UInt8) : Option Nat :=
  let n := octet.toNat
  if 0x41 ≤ n ∧ n ≤ 0x5A then some (n - 0x41)
  else if 0x61 ≤ n ∧ n ≤ 0x7A then some (n - 0x61)
  else if 0x30 ≤ n ∧ n ≤ 0x39 then some (n - 0x16)
  else none

/-- The number at the start of digits, and what follows it. -/
def number? (bias : Nat) : (k weight : Nat) → Bytes → Option (Nat × Bytes)
  | _, _, [] => none
  | k, weight, octet :: rest =>
    match digit? octet with
    | none => none
    | some digit =>
      let t := threshold bias k
      if digit < t then some (digit * weight, rest)
      else (number? bias (k + 36) (weight * (36 - t)) rest).map fun (n, rest) =>
        (digit * weight + n, rest)

/-- A text with the characters in it that numbers stand for, of which `fuel` bounds how many there
are.  `code` is the last one that was put in, and `next` the place behind it.  What is no number
ends them, and a question mark stands for what is no character. -/
def insertAll : (fuel bias code next : Nat) → (first : Bool) → Text → Bytes → Text
  | 0, _, _, _, _, t, _ => t
  | fuel + 1, bias, code, next, first, t, octets =>
    match number? bias 36 1 octets with
    | none => t
    | some (delta, rest) =>
      let place := next + delta
      let code := code + place / (t.length + 1)
      let code := if code > 0x10FFFF then 0x3F else code
      let place := place % (t.length + 1)
      let t := t.take place ++ CodePoint.ofNat code :: t.drop place
      insertAll fuel (adapt delta t.length first) code (place + 1) false t rest

/-- The first octet beyond ASCII, as the reason why octets cannot be read. -/
def beyondAscii? (position : Nat) : Bytes → Option DecodeFault
  | [] => none
  | octet :: rest =>
    if octet.toNat < 0x80 then beyondAscii? (position + 1) rest
    else some ⟨"ascii", octet, position, 1, "ordinal not in range(128)"⟩

/-- The text that octets stand for.  What is beyond ASCII is replaced before the last dash, and
refused behind it. -/
def read (octets : Bytes) : Except DecodeFault Text :=
  let dash : UInt8 := 0x2D
  let numbers := (octets.reverse.takeWhile (· ≠ dash)).reverse
  let basic := (octets.take (octets.length - numbers.length)).dropLast
  match beyondAscii? 0 numbers with
  | some fault => .error fault
  | none =>
    let t := basic.map fun b => CodePoint.ofNat (if b.toNat < 0x80 then b.toNat else 0xFFFD)
    .ok (insertAll numbers.length 72 0x80 0 true t numbers)

end ProseCompiler.Punycode
