import ProseCompiler.Encoding.Punycode
import ProseCompiler.Fault
import ProseCompiler.Number.Integer
import ProseCompiler.Text.Case
import ProseCompiler.Text.Quoted

/-!
# URLs

Reading an address and bringing it into the one form in which it is sent: scheme and host in
lower case, the scheme's own port left out, dot segments removed, and everything that a part may
not hold percent-encoded.  Percent signs that already encode something stay.
-/

namespace ProseCompiler

/-- An address in the form in which it is sent. -/
structure Url where
  scheme : Text
  userinfo : Text
  host : Text
  port : Option Int
  path : Text
  query : Option Text
  fragment : Option Text
deriving DecidableEq, Repr

namespace Url

/-- What is wrong with an address. -/
abbrev Refusal := Text

/-! ## Percent-encoding -/

/-- An octet as a percent sign and two digits. -/
def percentOctet (b : UInt8) : Text := "%" ++ Text.upperAscii (Text.hex 2 b.toNat)

/-- A code point that every part of an address may hold. -/
def isUnreserved (c : CodePoint) : Bool :=
  c.isDigit || c.isLetter || c = '-' || c = '.' || c = '_' || c = '~'

/-- The value of a hexadecimal digit. -/
def hexValue? (d : CodePoint) : Option Nat :=
  if d.isDigit then some (d.val - 0x30)
  else if 0x41 ≤ d.val ∧ d.val ≤ 0x46 then some (d.val - 0x37)
  else if 0x61 ≤ d.val ∧ d.val ≤ 0x66 then some (d.val - 0x57)
  else none

/-- Percent-encodes what is not safe; `skipped` code points belong to an encoding that stays. -/
def quoteFrom (safe : CodePoint → Bool) : (skipped : Nat) → Text → Text
  | _, [] => []
  | skipped + 1, c :: rest => c :: quoteFrom safe skipped rest
  | 0, c :: rest =>
    match c.val, (rest[0]?).bind hexValue?, (rest[1]?).bind hexValue? with
    | 0x25, some _, some _ => c :: quoteFrom safe 2 rest
    | _, _, _ =>
      if isUnreserved c || safe c then c :: quoteFrom safe 0 rest
      else (Utf8.ofCodePoint c).flatMap percentOctet ++ quoteFrom safe 0 rest

def quote (safe : CodePoint → Bool) (t : Text) : Text := quoteFrom safe 0 t

/-- A visible ASCII character, or a space, that is not among the given ones. -/
def visibleBut (others : List Nat) (c : CodePoint) : Bool :=
  0x20 ≤ c.val && c.val < 0x7F && !others.contains c.val

def fragmentSafe : CodePoint → Bool := visibleBut [0x20, 0x22, 0x3C, 0x3E, 0x60]

def querySafe : CodePoint → Bool := visibleBut [0x20, 0x22, 0x23, 0x3C, 0x3E]

def pathSafe : CodePoint → Bool :=
  visibleBut [0x20, 0x22, 0x23, 0x3C, 0x3E, 0x3F, 0x60, 0x7B, 0x7D]

def userinfoSafe : CodePoint → Bool :=
  visibleBut [0x20, 0x22, 0x23, 0x3C, 0x3E, 0x3F, 0x60, 0x7B, 0x7D, 0x2F, 0x3B, 0x3D, 0x40, 0x5B,
    0x5C, 0x5D, 0x5E, 0x7C]

def hostSafe (c : CodePoint) : Bool :=
  ("!$&'()*+,;=" : Text).contains c || ("\"`\x7b\x7d%|\\" : Text).contains c

/-- `unquote`, with a number of code points that belong to an octet already read. -/
def unquoteFrom : (skipped : Nat) → Text → Bytes
  | _, [] => []
  | skipped + 1, _ :: rest => unquoteFrom skipped rest
  | 0, c :: rest =>
    match c.val, (rest[0]?).bind hexValue?, (rest[1]?).bind hexValue? with
    | 0x25, some d, some e => UInt8.ofNat (d * 16 + e) :: unquoteFrom 2 rest
    | _, _, _ => Utf8.ofCodePoint c ++ unquoteFrom 0 rest

/-- The octets that percent signs encode, and the others as they are. -/
def unquote (t : Text) : Bytes := unquoteFrom 0 t

/-! ## Hosts -/

/-- Whether a host is four runs of digits with any one code point between two of them.  The fold
holds the places that reading may have reached: before a run (even) or inside it (odd). -/
def looksNumeric (host : Text) : Bool :=
  let next := fun (places : List Nat) (c : CodePoint) =>
    (places.flatMap fun place =>
      if place % 2 = 0 then if c.isDigit then [place + 1] else []
      else (if c.isDigit then [place] else []) ++ (if place < 7 then [place + 1] else [])).eraseDups
  (host.foldl next [0]).contains 7

/-- Whether a text is a dotted address of four numbers. -/
def isAddress4 (t : Text) : Bool :=
  let numbers := Text.splitOn '.' t
  numbers.length == 4 && numbers.all fun n =>
    !n.isEmpty && n.all CodePoint.isDigit && n.length ≤ 3 &&
      (n.length == 1 || n.head? != some ('0' : CodePoint)) &&
      Number.ofDigits (n.map fun c => c.val - 0x30) ≤ 255

/-- Whether a text is one group of an address of eight. -/
def isGroup (t : Text) : Bool :=
  !t.isEmpty && t.length ≤ 4 && t.all fun c =>
    c.isDigit || (0x41 ≤ c.val && c.val ≤ 0x46) || (0x61 ≤ c.val && c.val ≤ 0x66)

/-- Whether a text is an address of eight groups, of which a run may be left out. -/
def isAddress6 (t : Text) : Bool :=
  let (address, scopeOk) := match Text.cutAt? '%' t with
    | none => (t, true)
    | some (address, scope) => (address, !scope.isEmpty && !scope.contains ('%' : CodePoint))
  let parts := Text.splitOn ':' address
  let lastPart := (parts.getLast?).getD []
  let dotted := lastPart.contains ('.' : CodePoint)
  let parts := if dotted then parts.dropLast ++ [("0" : Text), ("0" : Text)] else parts
  let inner := (parts.drop 1).dropLast
  let gaps := (inner.filter fun p => p.isEmpty).length
  let first := (parts.head?).getD []
  let last := (parts.getLast?).getD []
  let wellFormed :=
    if gaps > 1 then false
    else if gaps = 1 then
      let skip := (inner.takeWhile fun p => !p.isEmpty).length + 1
      let high := if first.isEmpty then skip - 1 else skip
      let low := if last.isEmpty then parts.length - skip - 2 else parts.length - skip - 1
      (!first.isEmpty || high == 0) && (!last.isEmpty || low == 0) && high + low < 8 &&
        ((parts.take skip).drop (skip - high)).all isGroup &&
        ((parts.drop (skip + 1)).take low).all isGroup
    else parts.length == 8 && parts.all isGroup
  scopeOk && !t.contains ('/' : CodePoint) && 3 ≤ (Text.splitOn ':' address).length &&
    parts.length ≤ 9 && (!dotted || isAddress4 lastPart) && wellFormed

/-! ### Names beyond ASCII -/

/-- Blocks of code points beyond ASCII that stand in no name.  The standard decides this code point
by code point, by a table; here whole blocks of signs are left out, which comes close to it. -/
def signBlocks : List (Nat × Nat) :=
  [(0x80, 0xB6), (0xB8, 0xDE), (0xF7, 0xF7), (0x2000, 0x214D), (0x214F, 0x2183), (0x2185, 0x2BFF),
   (0x3000, 0x3004), (0x3008, 0x3029), (0xFE10, 0xFE1F), (0xFE30, 0xFE72), (0xFE74, 0xFFFF),
   (0x1F000, 0x1FAFF)]

/-- Whether a code point can stand in a name beyond ASCII, as far as `signBlocks` tells.  The rules
that depend on what stands beside a code point, or on the direction of its script, are left
out. -/
def isNamePart (c : CodePoint) : Bool :=
  if c.val < 0x80 then c.isDigit || c.isLetter || c = '-'
  else c.isPrintable && !signBlocks.any fun (first, last) => first ≤ c.val && c.val ≤ last

/-- The ASCII form of a label, if it is a name. -/
def asciiLabel? (label : Text) : Option Text :=
  let coded := if label.all fun c => c.val < 0x80 then label else "xn--" ++ Punycode.ofLabel label
  let dash : CodePoint := '-'
  if label.isEmpty ∨ !label.all isNamePart ∨ label.head? = some dash ∨ label.getLast? = some dash ∨
      (label.drop 2).take 2 = [dash, dash] ∨ 63 < coded.length then none
  else some coded

/-- The ASCII form of a host name, which may end in a dot. -/
def asciiHost? (host : Text) : Option Text :=
  let dots := host.map fun c =>
    if c.val = 0x3002 ∨ c.val = 0xFF0E ∨ c.val = 0xFF61 then ('.' : CodePoint) else c
  let labels := Text.splitOn '.' dots
  let endsInDot := labels.getLast? = some []
  let labels := if endsInDot then labels.dropLast else labels
  (labels.mapM asciiLabel?).map fun labels =>
    Text.joinWith "." labels ++ (if endsInDot then "." else "" : Text)

/-- A host in the form in which it is sent. -/
def normalHost (host : Text) : Except Refusal Text :=
  if host = [] then .ok []
  else if looksNumeric host then
    if isAddress4 host then .ok host else .error ("Invalid IPv4 address: " ++ Text.quoted host)
  else if host.head? = some ('[' : CodePoint) ∧ host.getLast? = some (']' : CodePoint) then
    let inner := (host.drop 1).dropLast
    if isAddress6 inner then .ok inner else .error ("Invalid IPv6 address: " ++ Text.quoted host)
  else if host.all fun c => c.val < 0x80 then .ok (quote hostSafe host.lowerAscii)
  else
    match asciiHost? host.lower with
    | some name => .ok name
    | none => .error ("Invalid IDNA hostname: " ++ Text.quoted host)

/-! ## Ports and paths -/

/-- The port that a scheme has of its own. -/
def ownPort (scheme : Text) : Option Int :=
  List.lookup scheme
    [("ftp", (21 : Int)), ("http", 80), ("https", 443), ("ws", 80), ("wss", 443)]

/-- A port, left out if it is the scheme's own. -/
def normalPort (scheme : Text) : Option Text → Except Refusal (Option Int)
  | none | some [] => .ok none
  | some port =>
    match Number.integer? port with
    | none => .error ("Invalid port: " ++ Text.quoted port)
    | some n => .ok (if ownPort scheme = some n then none else some n)

/-- The segments of a path without single dots, each pair of dots taking the segment before it
away; the empty segment at the start stays. -/
def withoutDots (done : List Text) : List Text → List Text
  | [] => done.reverse
  | segment :: rest =>
    if segment = "." then withoutDots done rest
    else if segment = ".." then
      withoutDots (if done = [[]] then done else done.drop 1) rest
    else withoutDots (segment :: done) rest

/-- A path without dot segments. -/
def normalPath (path : Text) : Text := Text.joinWith "/" (withoutDots [] (Text.splitOn '/' path))

/-! ## Reading -/

/-- The scheme before a colon, if there is one, and what follows; the scheme may be empty. -/
def splitScheme (t : Text) : Text × Text :=
  let isPart := fun (c : CodePoint) => c.isLetter || c.isDigit || c = '+' || c = '.' || c = '-'
  let scheme := match t with
    | c :: _ => if c.isLetter then t.takeWhile isPart else []
    | [] => []
  match t.drop scheme.length with
  | c :: rest => if c = ':' then (scheme, rest) else ([], t)
  | [] => ([], t)

/-- The part up to one of the given ends, and the rest. -/
def upTo (ends : Text) (t : Text) : Text × Text :=
  (t.takeWhile fun c => !ends.contains c, t.dropWhile fun c => !ends.contains c)

/-- The user, the host and the port of an authority. -/
def splitAuthority (authority : Text) : Text × Text × Option Text :=
  let (userinfo, rest) := match Text.cutAtLast? '@' authority with
    | some (userinfo, rest) => (userinfo, rest)
    | none => ([], authority)
  let bracketed := if rest.head? = some ('[' : CodePoint) then Text.cutAtLast? ']' rest else none
  let (host, rest) : Text × Text := match bracketed with
    | some (inner, after) => (inner ++ "]", after)
    | none => upTo ":@" rest
  let port := match rest with
    | c :: after => if c = ':' then after else c :: after
    | [] => []
  (userinfo, host, if port.isEmpty then none else some port)

/-- The longest address. -/
def lengthLimit : Nat := 65536

/-- The address with given parts, in the form in which it is sent. -/
def ofParts (scheme authority path : Text) (query fragment : Option Text) :
    Except Refusal Url := do
  let (userinfo, host, port) := splitAuthority authority
  let host ← normalHost host
  let port ← normalPort scheme port
  let hasScheme := !scheme.isEmpty
  let hasAuthority := !userinfo.isEmpty || !host.isEmpty || port.isSome
  if hasAuthority ∧ path ≠ [] ∧ path.head? ≠ some ('/' : CodePoint) then
    .error "For absolute URLs, path must be empty or begin with '/'"
  else if hasScheme = false ∧ hasAuthority = false ∧ Text.startsWith path "//" = true then
    .error "Relative URLs cannot have a path starting with '//'"
  else if hasScheme = false ∧ hasAuthority = false ∧ Text.startsWith path ":" = true then
    .error "Relative URLs cannot have a path starting with ':'"
  else
    .ok {
      scheme := scheme.lowerAscii
      userinfo := quote userinfoSafe userinfo
      host, port
      path := quote pathSafe (if hasScheme || hasAuthority then normalPath path else path)
      query := query.map (quote querySafe)
      fragment := fragment.map (quote fragmentSafe) }

/-- The address that a text spells. -/
def parse (t : Text) : Except Refusal Url :=
  if t.length > lengthLimit then .error "URL too long"
  else
    let isControl := fun (c : CodePoint) => c.val < 0x20 || c.val == 0x7F
    match firstStretch? isControl 0 t with
    | some (culprit, position, _) =>
      .error ("Invalid non-printable ASCII character in URL, " ++ Text.quoted [culprit] ++
        " at position " ++ Text.ofNat position ++ ".")
    | none =>
      let (scheme, rest) := splitScheme t
      let (authority, rest) := match Text.afterStart? rest "//" with
        | some rest => upTo "/?#" rest
        | none => ([], rest)
      let (path, rest) := upTo "?#" rest
      let (query, rest) := match rest with
        | c :: after =>
          if c = '?' then (some (upTo "#" after).1, (upTo "#" after).2) else (none, rest)
        | [] => (none, [])
      let fragment := match rest with
        | _ :: after => some after
        | [] => none
      ofParts scheme authority path query fragment

/-! ## Writing -/

/-- A part with what marks its end, or nothing if it is empty. -/
def ended (part mark : Text) : Text := if part = [] then [] else part ++ mark

/-- A part with what marks its start, or nothing if there is none. -/
def started (mark : Text) : Option Text → Text
  | some part => mark ++ part
  | none => []

/-- A host, in brackets if it has colons. -/
def bracketed (host : Text) : Text :=
  if host.contains (':' : CodePoint) then "[" ++ host ++ "]" else host

/-- The host with its user and port. -/
def authority (u : Url) : Text :=
  ended u.userinfo "@" ++ bracketed u.host ++ started ":" (u.port.map Number.ofInt)

/-- The text of an address. -/
def text (u : Url) : Text :=
  let authority := if u.authority = [] then none else some u.authority
  ended u.scheme ":" ++ started "//" authority ++ u.path ++ started "?" u.query ++
    started "#" u.fragment

/-- Whether an address says whom to ask. -/
def isAbsolute (u : Url) : Bool := !u.scheme.isEmpty && !u.host.isEmpty

/-- The address that is asked: one that does not say whom to ask is reduced to its path and
query. -/
def target (t : Text) : Except Refusal Url := do
  let u ← parse t
  if u.isAbsolute then .ok u
  else
    let path : Text := "/" ++ u.path.dropWhile fun (c : CodePoint) => c = '/'
    ofParts [] [] path u.query none

/-! ## Credentials -/

/-- Three octets in four characters of the base-64 alphabet. -/
def base64Digit (n : Nat) : CodePoint :=
  CodePoint.ofNat (if n < 26 then 0x41 + n else if n < 52 then 0x47 + n
    else if n < 62 then n - 4 else if n = 62 then 0x2B else 0x2F)

/-- Octets in the base-64 alphabet, padded. -/
def base64 : Bytes → Text
  | [] => []
  | [a] => [base64Digit (a.toNat / 4), base64Digit (a.toNat % 4 * 16), '=', '=']
  | [a, b] =>
    [base64Digit (a.toNat / 4), base64Digit (a.toNat % 4 * 16 + b.toNat / 16),
      base64Digit (b.toNat % 16 * 4), '=']
  | a :: b :: c :: rest =>
    [base64Digit (a.toNat / 4), base64Digit (a.toNat % 4 * 16 + b.toNat / 16),
      base64Digit (b.toNat % 16 * 4 + c.toNat / 64), base64Digit (c.toNat % 64)] ++ base64 rest

/-- What an address with a user in it sends as authorization. -/
def basicAuthorization? (u : Url) : Option Text :=
  if u.userinfo.isEmpty then none
  else
    let (user, password) := match Text.cutAt? ':' u.userinfo with
      | some (user, password) => (user, password)
      | none => (u.userinfo, [])
    if user.isEmpty ∧ password.isEmpty then none
    else
      let plain := fun (t : Text) => (Utf8.decodeAny (unquote t)).flatMap Utf8.ofCodePoint
      some ("Basic " ++ base64 (plain user ++ [58] ++ plain password))

end Url

end ProseCompiler
