import ProseCompiler.Text.Basic

/-!
# UTF-8

The octets of a text and the text of octets.  A lone surrogate has no octets, and the first
stretch of such code points is reported.  Octets that are not UTF-8 are reported by their first
ill-formed stretch: the longest start of a well-formed sequence, or the one octet that starts
none.
-/

namespace ProseCompiler

/-- A stretch of code points that an encoding cannot write: the encoding's name, the first of
the code points, where it stands, how many there are, and why. -/
structure EncodeFault where
  encoding : Text
  culprit : CodePoint
  position : Nat
  count : Nat
  reason : Text
deriving DecidableEq, Repr

namespace EncodeFault

/-- A code point by number, as the message quotes it. -/
def shownCulprit (c : CodePoint) : Text :=
  if c.val < 0x100 then "\\x" ++ Text.hex 2 c.val
  else if c.val < 0x10000 then "\\u" ++ Text.hex 4 c.val
  else "\\U" ++ Text.hex 8 c.val

def message (fault : EncodeFault) : Text :=
  "'" ++ fault.encoding ++ "' codec can't encode " ++
    (if fault.count = 1 then
      "character '" ++ shownCulprit fault.culprit ++ "' in position " ++ Text.ofNat fault.position
    else
      "characters in position " ++ Text.ofNat fault.position ++ "-" ++
        Text.ofNat (fault.position + fault.count - 1)) ++
    ": " ++ fault.reason

end EncodeFault

/-- A stretch of octets that an encoding cannot read: the encoding's name, the first octet, where
it stands, how many there are, and why. -/
structure DecodeFault where
  encoding : Text
  octet : UInt8
  position : Nat
  count : Nat
  reason : Text
deriving DecidableEq, Repr

namespace DecodeFault

def message (fault : DecodeFault) : Text :=
  "'" ++ fault.encoding ++ "' codec can't decode " ++
    (if fault.count = 1 then
      "byte 0x" ++ Text.hex 2 fault.octet.toNat ++ " in position " ++ Text.ofNat fault.position
    else
      "bytes in position " ++ Text.ofNat fault.position ++ "-" ++
        Text.ofNat (fault.position + fault.count - 1)) ++
    ": " ++ fault.reason

end DecodeFault

/-- The first stretch of code points that fail a test: its first code point, its position and its
length. -/
def firstStretch? (bad : CodePoint → Bool) (position : Nat) : Text → Option (CodePoint × Nat × Nat)
  | [] => none
  | c :: t =>
    if bad c then some (c, position, (t.takeWhile bad).length + 1)
    else firstStretch? bad (position + 1) t

namespace Utf8

/-- The low eight bits of a number. -/
def octet (n : Nat) : UInt8 := UInt8.ofNat n

/-- The octets of a code point.  A surrogate is written as if it were allowed. -/
def ofCodePoint (c : CodePoint) : Bytes :=
  let n := c.val
  if n < 0x80 then [octet n]
  else if n < 0x800 then [octet (0xC0 + n / 0x40), octet (0x80 + n % 0x40)]
  else if n < 0x10000 then
    [octet (0xE0 + n / 0x1000), octet (0x80 + n / 0x40 % 0x40), octet (0x80 + n % 0x40)]
  else
    [octet (0xF0 + n / 0x40000), octet (0x80 + n / 0x1000 % 0x40), octet (0x80 + n / 0x40 % 0x40),
      octet (0x80 + n % 0x40)]

/-- The octets of a text that has no surrogate. -/
def encode (t : Text) : Except EncodeFault Bytes :=
  match firstStretch? CodePoint.isSurrogate 0 t with
  | some (culprit, position, count) =>
    .error ⟨"utf-8", culprit, position, count, "surrogates not allowed"⟩
  | none => .ok (t.flatMap ofCodePoint)

/-- An octet that continues a sequence. -/
def isContinuation (b : UInt8) : Bool := 0x80 ≤ b.toNat && b.toNat ≤ 0xBF

/-- How a stretch of octets can be ill-formed. -/
inductive Defect where
  | start
  | continuation
  | truncated
deriving DecidableEq, Repr

/-- The first thing that octets hold: a code point and what follows it, or an ill-formed stretch
of a given length. -/
inductive Head where
  | point (c : CodePoint) (rest : Bytes)
  | broken (defect : Defect) (count : Nat)

/-- The code point of a sequence of two octets. -/
def point2 (a b : UInt8) : CodePoint :=
  CodePoint.ofNat ((a.toNat - 0xC0) * 0x40 + (b.toNat - 0x80))

/-- The code point of a sequence of three octets. -/
def point3 (a b c : UInt8) : CodePoint :=
  CodePoint.ofNat ((a.toNat - 0xE0) * 0x1000 + (b.toNat - 0x80) * 0x40 + (c.toNat - 0x80))

/-- The code point of a sequence of four octets. -/
def point4 (a b c d : UInt8) : CodePoint :=
  CodePoint.ofNat ((a.toNat - 0xF0) * 0x40000 + (b.toNat - 0x80) * 0x1000 +
    (c.toNat - 0x80) * 0x40 + (d.toNat - 0x80))

/-- Whether `b` may follow the first octet `a` of a sequence of three. -/
def follows3 (a b : UInt8) : Bool :=
  isContinuation b && (a.toNat != 0xE0 || 0xA0 ≤ b.toNat) && (a.toNat != 0xED || b.toNat < 0xA0)

/-- Whether `b` may follow the first octet `a` of a sequence of four. -/
def follows4 (a b : UInt8) : Bool :=
  isContinuation b && (a.toNat != 0xF0 || 0x90 ≤ b.toNat) && (a.toNat != 0xF4 || b.toNat < 0x90)

/-- The first thing in the octets `a :: rest`. -/
def head (a : UInt8) (rest : Bytes) : Head :=
  if a.toNat < 0x80 then .point (CodePoint.ofNat a.toNat) rest
  else if a.toNat < 0xC2 then .broken .start 1
  else if a.toNat < 0xE0 then
    match rest with
    | [] => .broken .truncated 1
    | b :: rest => if isContinuation b then .point (point2 a b) rest else .broken .continuation 1
  else if a.toNat < 0xF0 then
    match rest with
    | [] => .broken .truncated 1
    | b :: rest =>
      if follows3 a b then
        match rest with
        | [] => .broken .truncated 2
        | c :: rest =>
          if isContinuation c then .point (point3 a b c) rest else .broken .continuation 2
      else .broken .continuation 1
  else if a.toNat < 0xF5 then
    match rest with
    | [] => .broken .truncated 1
    | b :: rest =>
      if follows4 a b then
        match rest with
        | [] => .broken .truncated 2
        | c :: rest =>
          if isContinuation c then
            match rest with
            | [] => .broken .truncated 3
            | d :: rest =>
              if isContinuation d then .point (point4 a b c d) rest else .broken .continuation 3
          else .broken .continuation 2
      else .broken .continuation 1
  else .broken .start 1

theorem head_rest_length {a : UInt8} {rest after : Bytes} {c : CodePoint}
    (h : head a rest = .point c after) : after.length ≤ rest.length := by
  unfold head at h
  repeat' split at h
  all_goals simp_all
  all_goals omega

def Defect.reason : Defect → Text
  | .start => "invalid start byte"
  | .continuation => "invalid continuation byte"
  | .truncated => "unexpected end of data"

/-- `decode` after `position` octets, which gave the reversed text `done`. -/
def decodeFrom (position : Nat) (done : Text) : Bytes → Except DecodeFault Text
  | [] => .ok done.reverse
  | a :: rest =>
    match h : head a rest with
    | .point c after =>
      have := head_rest_length h
      decodeFrom (position + (rest.length + 1 - after.length)) (c :: done) after
    | .broken defect count => .error ⟨"utf-8", a, position, count, defect.reason⟩
termination_by octets => octets.length
decreasing_by simp only [List.length_cons]; omega

/-- The text of octets that are UTF-8 throughout. -/
def decode (octets : Bytes) : Except DecodeFault Text := decodeFrom 0 [] octets

/-- The surrogate that three octets would spell if it were allowed. -/
def surrogate? : Bytes → Option (CodePoint × Bytes)
  | a :: b :: c :: rest =>
    if a.toNat = 0xED ∧ 0xA0 ≤ b.toNat ∧ b.toNat ≤ 0xBF ∧ isContinuation c = true then
      some (point3 a b c, rest)
    else none
  | _ => none

theorem surrogate?_length {octets after : Bytes} {c : CodePoint}
    (h : surrogate? octets = some (c, after)) : after.length < octets.length := by
  unfold surrogate? at h
  split at h
  · split at h
    · simp at h
      obtain ⟨-, rfl⟩ := h
      simp only [List.length_cons]
      omega
    · simp at h
  · simp at h

/-- `decodeLoose?` behind the reversed text `done`. -/
def decodeLooseFrom? (done : Text) : Bytes → Option Text
  | [] => some done.reverse
  | a :: rest =>
    match h : head a rest with
    | .point c after =>
      have := head_rest_length h
      decodeLooseFrom? (c :: done) after
    | .broken .. =>
      match hs : surrogate? (a :: rest) with
      | some (c, after) =>
        have := surrogate?_length hs
        decodeLooseFrom? (c :: done) after
      | none => none
termination_by octets => octets.length
decreasing_by all_goals simp only [List.length_cons] at *; omega

/-- The text of octets that are UTF-8 but for surrogates, which are read as well. -/
def decodeLoose? (octets : Bytes) : Option Text := decodeLooseFrom? [] octets

/-- `decodeAny` with the length of the octets as fuel. -/
def decodeAnyWithin : Nat → Text → Bytes → Text
  | 0, done, _ => done.reverse
  | _ + 1, done, [] => done.reverse
  | fuel + 1, done, a :: rest =>
    match head a rest with
    | .point c after => decodeAnyWithin fuel (c :: done) after
    | .broken _ count => decodeAnyWithin fuel (CodePoint.ofNat 0xFFFD :: done) ((a :: rest).drop count)

/-- The text of any octets; each ill-formed stretch becomes one replacement character. -/
def decodeAny (octets : Bytes) : Text := decodeAnyWithin octets.length [] octets

/-- The low surrogate that stands for one octet. -/
def stray (b : UInt8) : CodePoint := CodePoint.ofNat (0xDC00 + b.toNat)

/-- The text that the octets of a path spell; each octet that is no part of UTF-8 becomes the low
surrogate that stands for it. -/
def decodePath : Bytes → Text
  | [] => []
  | a :: rest =>
    match h : head a rest with
    | .point c after =>
      have := head_rest_length h
      c :: decodePath after
    | .broken .. => stray a :: decodePath rest
termination_by octets => octets.length
decreasing_by all_goals simp only [List.length_cons] at *; omega

end Utf8

end ProseCompiler
