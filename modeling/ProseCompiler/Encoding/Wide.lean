import ProseCompiler.Text.Basic

/-!
# Encodings of two and four octets

UTF-16 and UTF-32 in either order of octets.  Units that are no code point are left to the
caller: some readers take lone surrogates as they stand, others put a replacement character.
-/

namespace ProseCompiler

/-- Which octet of a unit comes first. -/
inductive OctetOrder where
  | big
  | little
deriving DecidableEq, Repr

namespace Wide

/-- One unit of an encoding, or octets that are too few for one. -/
inductive Item where
  | unit (n : Nat)
  | truncated (count : Nat)
deriving DecidableEq, Repr

/-- The number that octets spell. -/
def number (order : OctetOrder) (octets : Bytes) : Nat :=
  let digits := match order with
    | .big => octets
    | .little => octets.reverse
  digits.foldl (fun n b => n * 0x100 + b.toNat) 0

/-- The units of two octets. -/
def units2 (order : OctetOrder) : Bytes → List Item
  | a :: b :: rest => .unit (number order [a, b]) :: units2 order rest
  | [_] => [.truncated 1]
  | [] => []

/-- The units of four octets. -/
def units4 (order : OctetOrder) : Bytes → List Item
  | a :: b :: c :: d :: rest => .unit (number order [a, b, c, d]) :: units4 order rest
  | [] => []
  | rest => [.truncated rest.length]

/-- A piece of decoded text: a code point, a lone surrogate, or a unit that is no code point. -/
inductive Piece where
  | point (c : CodePoint)
  | lone (c : CodePoint)
  | invalid
deriving DecidableEq, Repr

/-- Whether a unit opens a surrogate pair. -/
def isHigh (n : Nat) : Bool := 0xD800 ≤ n && n < 0xDC00

/-- Whether a unit closes a surrogate pair. -/
def isLow (n : Nat) : Bool := 0xDC00 ≤ n && n < 0xE000

/-- What units of two octets mean. -/
def pieces2 : List Item → List Piece
  | [] => []
  | .truncated _ :: rest => .invalid :: pieces2 rest
  | .unit n :: rest =>
    if isHigh n then
      match rest with
      | .unit m :: after =>
        if isLow m then
          .point (CodePoint.ofNat (0x10000 + (n - 0xD800) * 0x400 + (m - 0xDC00))) :: pieces2 after
        else .lone (CodePoint.ofNat n) :: pieces2 (.unit m :: after)
      | .truncated _ :: after => .invalid :: pieces2 after
      | [] => [.lone (CodePoint.ofNat n)]
    else if isLow n then .lone (CodePoint.ofNat n) :: pieces2 rest
    else .point (CodePoint.ofNat n) :: pieces2 rest

/-- What units of four octets mean. -/
def pieces4 (items : List Item) : List Piece :=
  items.map fun
    | .truncated _ => .invalid
    | .unit n =>
      if isHigh n || isLow n then .lone (CodePoint.ofNat n)
      else if n < 0x110000 then .point (CodePoint.ofNat n)
      else .invalid

/-- The text of pieces none of which is invalid; lone surrogates are kept. -/
def loose? (pieces : List Piece) : Option Text :=
  pieces.mapM fun
    | .point c => some c
    | .lone c => some c
    | .invalid => none

/-- The text of any pieces, with a replacement character for each that is no code point. -/
def replaced (pieces : List Piece) : Text :=
  pieces.map fun
    | .point c => c
    | .lone _ => CodePoint.ofNat 0xFFFD
    | .invalid => CodePoint.ofNat 0xFFFD

end Wide

end ProseCompiler
