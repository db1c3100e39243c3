import ProseCompiler.Encoding.CodePages
import ProseCompiler.Encoding.Punycode
import ProseCompiler.Encoding.Wide
import ProseCompiler.Fault
import ProseCompiler.Text.Blank
import ProseCompiler.Text.Case

/-!
# Declared character sets

A media type may declare the character set of a body.  This module finds the declared name, knows
the encoding it stands for, and reads any octets in that encoding; octets that spell nothing
become replacement characters.  A body without a known declaration is read as UTF-8.

Some names are those of codecs that read no octets in this way at all.  Others stand for encodings
that are left out here, most of them for East Asian scripts; they too are read as UTF-8.
-/

namespace ProseCompiler

/-- An encoding that a media type can declare. -/
inductive Charset where
  | ascii
  | latin
  | utf8
  | utf8Marked
  | utf16
  | utf16In (order : OctetOrder)
  | utf32
  | utf32In (order : OctetOrder)
  | page (first : Nat) (characters : Text)
  | punycode
  | refusing (fault : Fault)
deriving DecidableEq, Repr

namespace Charset

/-- A name with every run of punctuation as one low line, and without anything beyond ASCII. -/
def normalName (name : Text) : Text :=
  (name.lower.foldl
    (fun (state : Text × Bool) (c : CodePoint) =>
      let (done, gap) := state
      if c.isDigit || c.isLetter || c == '.' then
        (c :: (if gap && !done.isEmpty then ('_' : CodePoint) :: done else done), false)
      else (done, true))
    ([], false)).1.reverse

/-- The names of the encodings that are not code pages. -/
def names : List (Charset × List String) :=
  [(.ascii, ["646", "ansi_x3.4_1968", "ansi_x3.4_1986", "ansi_x3_4_1968", "ascii", "cp367",
      "csascii", "ibm367", "iso646_us", "iso_646.irv_1991", "iso_ir_6", "us", "us_ascii"]),
   (.latin, ["8859", "charmap", "cp819", "csisolatin1", "ibm819", "iso8859", "iso8859_1", "iso_8859_1",
      "iso_8859_1_1987", "iso_ir_100", "l1", "latin", "latin1", "latin_1"]),
   (.utf8, ["cp65001", "u8", "utf", "utf8", "utf8_ucs2", "utf8_ucs4", "utf_8"]),
   (.utf8Marked, ["utf_8_sig"]),
   (.utf16, ["u16", "utf16", "utf_16"]),
   (.utf16In .little, ["unicodelittleunmarked", "utf_16_le", "utf_16le"]),
   (.utf16In .big, ["unicodebigunmarked", "utf_16_be", "utf_16be"]),
   (.utf32, ["u32", "utf32", "utf_32"]),
   (.utf32In .little, ["utf_32_le", "utf_32le"]),
   (.utf32In .big, ["utf_32_be", "utf_32be"]),
   (.punycode, ["punycode"]),
   (.refusing (.raised "UnicodeError" "Unsupported error handling replace"), ["idna"]),
   (.refusing (.raised "UnicodeError" "undefined encoding"), ["undefined"]),
   (.refusing (.raised "TypeError"
      "descriptor 'translate' for 'str' objects doesn't apply to a 'bytes' object"),
      ["rot13", "rot_13"]),
   (.refusing (.raised "AssertionError" []), ["base64", "base64_codec", "base_64", "bz2",
      "bz2_codec", "hex", "hex_codec", "quopri", "quopri_codec", "quoted_printable",
      "quotedprintable", "uu", "uu_codec", "zip", "zlib", "zlib_codec"])]

/-- The encoding of a declared name. -/
def named? (name : Text) : Option Charset :=
  let wanted := normalName name
  if name.any fun c => c.val == 0 then some (.refusing (.badValue "embedded null character"))
  else
    match names.find? fun (_, spellings) => spellings.any fun s => (s : Text) == wanted with
    | some (charset, _) => some charset
    | none =>
      (CodePages.byName.find? fun (s, _) => (s : Text) == wanted).map
        fun (_, first, characters) => .page first characters

/-- `parameters` inside one part, of which `part` has been read in reverse. -/
def parametersFrom (inQuotes escaped : Bool) (part : Text) : Text → List Text
  | [] => [part.reverse]
  | c :: rest =>
    if c = ';' ∧ inQuotes = false then part.reverse :: parametersFrom false false [] rest
    else
      let flips := c == '"' && !escaped
      parametersFrom (if flips then !inQuotes else inQuotes) (c == '\\') (c :: part) rest

/-- The parts of a media type between semicolons that stand outside quotes. -/
def parameters (mediaType : Text) : List Text := parametersFrom false false [] mediaType

/-- A quoted value without the backslashes before backslashes and quotes. -/
def unescaped : Text → Text
  | [] => []
  | [c] => [c]
  | c :: d :: rest =>
    if c = '\\' ∧ (d = '\\' ∨ d = '"') then d :: unescaped rest else c :: unescaped (d :: rest)

/-- A parameter's value without the quotes or angle brackets around it. -/
def unquoted (value : Text) : Text :=
  match value, value.getLast? with
  | a :: inner@(_ :: _), some z =>
    if a = '"' ∧ z = '"' then unescaped inner.dropLast
    else if a = '<' ∧ z = '>' then inner.dropLast
    else value
  | _, _ => value

/-- The name of the character set that a media type declares. -/
def declaredName? (mediaType : Text) : Option Text :=
  (parameters mediaType).findSome? fun part =>
    match Text.cutAt? '=' part with
    | none => none
    | some (name, value) =>
      if (Text.trim name).lower = "charset" then
        let name := unquoted (Text.trim value)
        if name.all fun c => c.val < 0x80 then some name else none
      else none

/-- The encoding of a body of a given media type. -/
def ofMediaType (mediaType : Option Text) : Charset :=
  ((mediaType.bind declaredName?).bind named?).getD .utf8

/-- The text of octets that each stand for a character. -/
def readPage (first : Nat) (characters : Text) (octets : Bytes) : Text :=
  octets.map fun b =>
    if b.toNat < first then CodePoint.ofNat b.toNat
    else characters.getD (b.toNat - first) (CodePoint.ofNat 0xFFFD)

/-- The order of octets that a mark at the start of two-octet units declares. -/
def mark2? : Bytes → Option (OctetOrder × Bytes)
  | a :: b :: rest =>
    if a = 0xFF ∧ b = 0xFE then some (.little, rest)
    else if a = 0xFE ∧ b = 0xFF then some (.big, rest)
    else none
  | _ => none

/-- The order of octets that a mark at the start of four-octet units declares. -/
def mark4? : Bytes → Option (OctetOrder × Bytes)
  | a :: b :: c :: d :: rest =>
    if [a, b, c, d] = [0xFF, 0xFE, 0, 0] then some (.little, rest)
    else if [a, b, c, d] = [0, 0, 0xFE, 0xFF] then some (.big, rest)
    else none
  | _ => none

/-- The mark at the start of UTF-8 octets, taken off. -/
def withoutMark8 : Bytes → Bytes
  | 0xEF :: 0xBB :: 0xBF :: rest => rest
  | octets => octets

/-- The text of any octets, or why the encoding has none for them.  Wide units without a declared
order need a mark that gives it, unless there are too few octets for one unit. -/
def read (charset : Charset) (octets : Bytes) : Except Fault Text :=
  match charset with
  | .refusing fault => .error fault
  | .punycode => (Punycode.read octets).mapError Fault.undecodable
  | .ascii => .ok (octets.map fun b => CodePoint.ofNat (if b.toNat < 0x80 then b.toNat else 0xFFFD))
  | .latin => .ok (octets.map fun b => CodePoint.ofNat b.toNat)
  | .utf8 => .ok (Utf8.decodeAny octets)
  | .utf8Marked => .ok (Utf8.decodeAny (withoutMark8 octets))
  | .utf16In order => .ok (Wide.replaced (Wide.pieces2 (Wide.units2 order octets)))
  | .utf32In order => .ok (Wide.replaced (Wide.pieces4 (Wide.units4 order octets)))
  | .page first characters => .ok (readPage first characters octets)
  | .utf16 =>
    match mark2? octets with
    | some (order, rest) => .ok (Wide.replaced (Wide.pieces2 (Wide.units2 order rest)))
    | none =>
      if octets.length < 2 then .ok (Wide.replaced (Wide.pieces2 (Wide.units2 .little octets)))
      else .error (.raised "UnicodeError" "UTF-16 stream does not start with BOM")
  | .utf32 =>
    match mark4? octets with
    | some (order, rest) => .ok (Wide.replaced (Wide.pieces4 (Wide.units4 order rest)))
    | none =>
      if octets.length < 4 then .ok (Wide.replaced (Wide.pieces4 (Wide.units4 .little octets)))
      else .error (.raised "UnicodeError" "UTF-32 stream does not start with BOM")

end Charset

end ProseCompiler
