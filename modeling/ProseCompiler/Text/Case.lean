import ProseCompiler.Text.Basic
import ProseCompiler.Text.CaseTable

/-!
# Letter case

The lower-case and upper-case forms of a text by the full mappings of Unicode: a code point may
become several, and a capital sigma takes its final form at the end of a word.
-/

namespace ProseCompiler

namespace CodePoint

/-- The partner of a number in a table of runs. -/
def caseTarget? (runs : List (Nat × Nat × Nat × Nat)) (n : Nat) : Option Nat :=
  runs.findSome? fun (first, last, step, target) =>
    if first ≤ n ∧ n ≤ last ∧ (n - first) % step = 0 then some (target + (n - first)) else none

/-- Whether a number lies in one of the ranges. -/
def inRanges (ranges : List (Nat × Nat)) (n : Nat) : Bool :=
  ranges.any fun (first, last) => first ≤ n && n ≤ last

/-- The lower-case form of one code point, whatever stands beside it. -/
def lower (c : CodePoint) : Text :=
  if c.val < 0x80 then
    [if 0x41 ≤ c.val ∧ c.val ≤ 0x5A then ofNat (c.val + 0x20) else c]
  else if c.val = 0x130 then [ofNat 0x69, ofNat 0x307]
  else [((caseTarget? CaseTable.lowerRuns c.val).map ofNat).getD c]

/-- The upper-case form of one code point. -/
def upper (c : CodePoint) : Text :=
  if c.val < 0x80 then
    [if 0x61 ≤ c.val ∧ c.val ≤ 0x7A then ofNat (c.val - 0x20) else c]
  else match CaseTable.upperSequences.lookup c.val with
    | some sequence => sequence.map ofNat
    | none => [((caseTarget? CaseTable.upperRuns c.val).map ofNat).getD c]

/-- A letter with case. -/
def isCased (c : CodePoint) : Bool := inRanges CaseTable.casedRanges c.val

/-- A code point that neither ends a word nor is a letter of it. -/
def isCaseIgnorable (c : CodePoint) : Bool := inRanges CaseTable.ignorableRanges c.val

/-- The capital sigma. -/
def capitalSigma : CodePoint := 'Σ'

end CodePoint

namespace Text

/-- Whether the first code point that is not ignorable is a cased letter. -/
def meetsCased : Text → Bool
  | [] => false
  | c :: t => if c.isCaseIgnorable then meetsCased t else c.isCased

/-- The lower-case form of `rest`, which stands after the reversed text `before`. -/
def lowerFrom (before : Text) : Text → Text
  | [] => []
  | c :: rest =>
    (if c = CodePoint.capitalSigma then
      [if meetsCased before && !meetsCased rest then ('ς' : CodePoint) else ('σ' : CodePoint)]
    else c.lower) ++ lowerFrom (c :: before) rest

/-- The lower-case form of a text. -/
def lower (t : Text) : Text := lowerFrom [] t

/-- The upper-case form of a text. -/
def upper (t : Text) : Text := t.flatMap CodePoint.upper

end Text

end ProseCompiler
