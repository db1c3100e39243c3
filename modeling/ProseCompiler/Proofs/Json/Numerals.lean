import Mathlib.Data.List.TakeWhile
import ProseCompiler.Json.Reader
import ProseCompiler.Proofs.Number.Numerals

/-!
# Words and integers, read

A word is read wherever it stands.  An integer is read if what follows it cannot belong to a
numeral (`EndsNumeral`): `scalarAt_ofInt`.  The digits of a numeral are a run of digits that
does not start with a zero, or a zero alone (`IsWhole`).
-/

namespace ProseCompiler.Json

variable {c : CodePoint} {t rest digits : Text} {position : Nat}

/-! ## Where numerals end -/

/-- A code point that can stand in a numeral behind a digit. -/
def extendsNumeral (c : CodePoint) : Bool := c.isDigit || c = '.' || c = 'e' || c = 'E'

/-- A text that does not start with anything that can stand in a numeral behind a digit. -/
def EndsNumeral (t : Text) : Prop := ∀ c, t.head? = some c → extendsNumeral c = false

theorem endsNumeral_nil : EndsNumeral [] := nofun

theorem endsNumeral_cons (h : extendsNumeral c = false) (t : Text) : EndsNumeral (c :: t) := by
  intro d hd
  cases hd
  exact h

theorem EndsNumeral.head_ne {d : CodePoint} (h : EndsNumeral t) (hd : extendsNumeral d = true) :
    t.head? ≠ some d := by
  intro heq
  rw [h d heq] at hd
  cases hd

theorem EndsNumeral.fraction_eq (h : EndsNumeral t) : fraction t = [] := by
  cases t with
  | nil => rfl
  | cons c t =>
    have hpoint : c ≠ '.' := by simpa using h.head_ne (d := '.') (by decide)
    rw [fraction, if_neg hpoint]

theorem EndsNumeral.exponent_eq (h : EndsNumeral t) : exponent t = [] := by
  cases t with
  | nil => rfl
  | cons c t =>
    have hsmall : c ≠ 'e' := by simpa using h.head_ne (d := 'e') (by decide)
    have hcapital : c ≠ 'E' := by simpa using h.head_ne (d := 'E') (by decide)
    rw [exponent.eq_def]
    exact if_neg (by simp [hsmall, hcapital])

theorem EndsNumeral.takeWhile_eq (h : EndsNumeral t) : t.takeWhile CodePoint.isDigit = [] := by
  cases t with
  | nil => rfl
  | cons c t =>
    have hc : c.isDigit = false := by
      have hends := h c rfl
      simp only [extendsNumeral, Bool.or_eq_false_iff] at hends
      exact hends.1.1.1
    rw [List.takeWhile_cons_of_neg (by simp [hc])]

/-! ## Numerals of integers -/

/-- The digits of an integer: they do not start with a zero, or are one. -/
structure IsWhole (digits : Text) : Prop where
  ne_nil : digits ≠ []
  isDigit : ∀ c ∈ digits, c.isDigit = true
  zero : digits.head? = some ('0' : CodePoint) → digits = [('0' : CodePoint)]

theorem isWhole_ofNat (n : Nat) : IsWhole (Text.ofNat n) := by
  refine ⟨Text.ofNat_ne_nil n, fun c => Text.isDigit_of_mem_ofNat, fun hhead => ?_⟩
  by_cases hn : n = 0
  · rw [hn]
    rfl
  · exact absurd hhead (Text.head?_ofNat_ne_zero hn)

theorem IsWhole.exists_head (h : IsWhole digits) :
    ∃ c more, digits = c :: more ∧ c.isDigit = true := by
  obtain ⟨c, more, rfl⟩ := List.exists_cons_of_ne_nil h.ne_nil
  exact ⟨c, more, rfl, h.isDigit c List.mem_cons_self⟩

/-- The whole part at the start of a text. -/
theorem IsWhole.whole_eq {more : Text} (h : IsWhole (c :: more)) (hrest : EndsNumeral rest) :
    (if c = '0' then [c] else (c :: (more ++ rest)).takeWhile CodePoint.isDigit) = c :: more := by
  split
  · next hc =>
    subst hc
    rw [h.zero rfl]
  · rw [← List.cons_append, List.takeWhile_append_of_pos h.isDigit, hrest.takeWhile_eq,
      List.append_nil]

/-- Digits with a minus before them, if the flag is set. -/
def signed (negative : Bool) (digits : Text) : Text :=
  if negative then ('-' : CodePoint) :: digits else digits

/-- The numeral of an integer at the start of a text that goes on with something else. -/
theorem numeral?_signed (h : IsWhole digits) (hrest : EndsNumeral rest) (negative : Bool) :
    numeral? (signed negative digits ++ rest) =
      some ⟨negative, digits, true, signed negative digits, rest⟩ := by
  obtain ⟨c, more, rfl, hc⟩ := h.exists_head
  have hwhole := h.whole_eq hrest
  have hsign : c ≠ '-' := by
    rintro rfl
    exact absurd hc (by decide)
  have hdrop : (c :: (more ++ rest)).drop (c :: more).length = rest := List.drop_left
  rw [numeral?.eq_def]
  cases negative with
  | false =>
    simp only [signed, Bool.false_eq_true, if_false, List.cons_append, if_neg hsign, hwhole, hdrop,
      hrest.fraction_eq, hrest.exponent_eq, List.isEmpty_cons, List.length_nil, List.drop_zero,
      List.append_nil, List.isEmpty_nil]
  | true =>
    simp only [signed, if_true, List.cons_append, hwhole, hdrop, hrest.fraction_eq,
      hrest.exponent_eq, List.isEmpty_cons, List.length_nil, List.drop_zero, List.append_nil,
      List.isEmpty_nil, Bool.false_eq_true, if_false]

theorem ofInt_eq_signed (i : Int) :
    Number.ofInt i = signed (decide (i < 0)) (Text.ofNat i.natAbs) := by
  rw [Number.ofInt, signed]
  simp only [decide_eq_true_eq]

theorem isGap_of_isDigit (h : c.isDigit = true) : isGap c = false := by
  cases hgap : isGap c with
  | false => rfl
  | true =>
    simp only [isGap, Bool.or_eq_true, decide_eq_true_eq] at hgap
    rcases hgap with ((rfl | rfl) | rfl) | rfl <;> exact absurd h (by decide)

/-- The numeral of an integer starts with a minus or a digit. -/
theorem exists_head_ofInt (i : Int) :
    ∃ c more, Number.ofInt i = c :: more ∧ (c = ('-' : CodePoint) ∨ c.isDigit = true) := by
  obtain ⟨c, more, hdigits, hc⟩ := (isWhole_ofNat i.natAbs).exists_head
  rw [ofInt_eq_signed, signed, hdigits]
  cases decide (i < 0) with
  | false => exact ⟨c, more, rfl, .inr hc⟩
  | true => exact ⟨_, _, rfl, .inl rfl⟩

/-! ## Words -/

theorem afterStart?_append (t rest : Text) : Text.afterStart? (t ++ rest) t = some rest := by
  induction t with
  | nil => rw [List.nil_append, Text.afterStart?.eq_def]
  | cons c t ih => rw [List.cons_append, Text.afterStart?, if_pos rfl, ih]

/-- A word that starts otherwise than the text does not stand there. -/
theorem afterStart?_of_head {word : Text} (h : word.head?.any (· ≠ c) = true) (t : Text) :
    Text.afterStart? (c :: t) word = none := by
  cases word with
  | nil => cases h
  | cons d start =>
    have hne : c ≠ d := Ne.symm (by simpa using h)
    rw [Text.afterStart?, if_neg hne]

/-- No word starts with a digit, with a minus before it or without. -/
theorem afterStart?_signed {word : Text} {value : Json} (hword : (word, value) ∈ words)
    (h : IsWhole digits) (negative : Bool) (rest : Text) :
    Text.afterStart? (signed negative digits ++ rest) word = none := by
  have hmem : word ∈ words.map Prod.fst := List.mem_map_of_mem hword
  obtain ⟨c, more, rfl, hc⟩ := h.exists_head
  have hother {start : Text} (hstart : start.head?.any (fun d => !d.isDigit) = true) :
      start.head?.any (· ≠ c) = true := by
    cases start with
    | nil => cases hstart
    | cons d start =>
      have hd : d ≠ c := by
        rintro rfl
        simp [hc] at hstart
      simpa using hd
  cases negative with
  | false =>
    have hall : ∀ word ∈ words.map Prod.fst,
        word.head?.any (fun d => !d.isDigit) = true := by decide
    exact afterStart?_of_head (hother (hall word hmem)) (more ++ rest)
  | true =>
    have hall : ∀ word ∈ words.map Prod.fst, word.head? = some ('-' : CodePoint) →
        word.tail.head?.any (fun d => !d.isDigit) = true := by decide
    cases word with
    | nil => exact absurd hmem (by decide)
    | cons d start =>
      by_cases hd : d = '-'
      · subst hd
        exact afterStart?_of_head (hother (hall _ hmem rfl)) (more ++ rest)
      · exact afterStart?_of_head (by simpa using hd) _

/-- The word at the start of a text, as `scalarAt` looks for it. -/
def word? (position : Nat) (t : Text) : Option (Json × Nat × Text) :=
  words.findSome? fun (word, value) => (Text.afterStart? t word).map fun rest =>
    (value, position + word.length, rest)

theorem scalarAt_of_word {found : Json × Nat × Text} (h : word? position t = some found) :
    scalarAt position t = .ok found := by
  rw [word?] at h
  rw [scalarAt, h]

theorem scalarAt_of_numeral {n : Numeral} (h : word? position t = none)
    (hnumeral : numeral? t = some n) :
    scalarAt position t = n.value.map fun value => (value, position + n.all.length, n.rest) := by
  rw [word?] at h
  rw [scalarAt, h, hnumeral]

/-- A word is read as its value if no word that is looked for before it starts like it. -/
theorem scalarAt_word {word : Text} {value : Json} (before : List (Text × Json))
    {after : List (Text × Json)} (hwords : words = before ++ (c :: word, value) :: after)
    (hbefore : ∀ other ∈ before, other.1.head?.any (· ≠ c) = true) (position : Nat) (rest : Text) :
    scalarAt position (c :: word ++ rest) = .ok (value, position + (c :: word).length, rest) := by
  refine scalarAt_of_word ?_
  rw [word?, hwords, List.findSome?_append, List.findSome?_eq_none_iff.mpr, Option.none_or,
    List.findSome?_cons]
  · simp only [afterStart?_append, Option.map_some]
  · intro other hother
    simp only [List.cons_append, afterStart?_of_head (hbefore other hother), Option.map_none]

/-- An integer with too many digits is refused, and another one is read, if nothing that belongs
to a numeral follows. -/
theorem scalarAt_signed (h : IsWhole digits) (hrest : EndsNumeral rest) (negative : Bool)
    (position : Nat) :
    scalarAt position (signed negative digits ++ rest) =
      if digits.length > Number.digitLimit then .error (.tooManyDigits digits.length)
      else
        let i : Int := Number.ofDigits (digits.map fun c => c.val - 0x30)
        .ok (.integer (if negative then -i else i), position + (signed negative digits).length,
          rest) := by
  have hword : word? position (signed negative digits ++ rest) = none := by
    rw [word?, List.findSome?_eq_none_iff]
    rintro ⟨word, value⟩ hmem
    simp only [afterStart?_signed hmem h, Option.map_none]
  rw [scalarAt_of_numeral hword (numeral?_signed h hrest negative)]
  simp only [Numeral.value, if_true]
  split <;> rfl

theorem scalarAt_ofInt {i : Int} (hi : i.natAbs < 10 ^ Number.digitLimit)
    (hrest : EndsNumeral rest) (position : Nat) :
    scalarAt position (Number.ofInt i ++ rest) =
      .ok (.integer i, position + (Number.ofInt i).length, rest) := by
  have hshort : ¬(Text.ofNat i.natAbs).length > Number.digitLimit :=
    Nat.not_lt.mpr ((Text.length_ofNat_le_iff (by decide)).mpr hi)
  have hvalue : (if decide (i < 0) = true then -(i.natAbs : Int) else i.natAbs) = i := by
    simp only [decide_eq_true_eq]
    omega
  rw [ofInt_eq_signed, scalarAt_signed (isWhole_ofNat i.natAbs) hrest, if_neg hshort]
  simp only [Number.ofDigits_ofNat, hvalue]

end ProseCompiler.Json
