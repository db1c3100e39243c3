import Mathlib.Algebra.Group.Nat.Defs
import ProseCompiler.Number.Integer

/-!
# Numerals

The decimal numeral of a natural number is made of digits, does not start with a zero unless it
is one, and has few digits if the number is small.  Read back, it is the number:
`ofDigits_ofNat`.

A number below `0x10000` fills four hexadecimal digits: `hex_four`.
-/

namespace ProseCompiler

theorem CodePoint.isDigit_ofChar {c : Char} (h : c.isDigit = true) :
    (CodePoint.ofChar c).isDigit = true := by
  simp only [Char.isDigit, Bool.and_eq_true, decide_eq_true_eq, UInt32.le_iff_toNat_le] at h
  rw [isDigit, ofChar_val, Bool.and_eq_true, decide_eq_true_eq, decide_eq_true_eq]
  exact h

namespace Text

/-! ## Decimal numerals -/

theorem ofNat_eq_digits (n : Nat) : ofNat n = (Nat.toDigits 10 n).map CodePoint.ofChar := by
  rw [ofNat, Nat.toList_repr]

theorem isDigit_of_mem_ofNat {n : Nat} {c : CodePoint} (h : c ∈ ofNat n) : c.isDigit = true := by
  rw [ofNat_eq_digits, List.mem_map] at h
  obtain ⟨d, hd, rfl⟩ := h
  exact CodePoint.isDigit_ofChar (Nat.isDigit_of_mem_toDigits (by decide) (by decide) hd)

theorem length_ofNat_le_iff {n count : Nat} (h : 0 < count) :
    (ofNat n).length ≤ count ↔ n < 10 ^ count := by
  rw [ofNat_eq_digits, List.length_map, Nat.length_toDigits_le_iff (by decide) h]

theorem ofNat_ne_nil (n : Nat) : ofNat n ≠ [] := by
  rw [ofNat_eq_digits, Nat.toDigits_eq_if (by decide)]
  split <;> simp

/-- Only zero has a numeral that starts with a zero. -/
theorem head?_ofNat_ne_zero {n : Nat} (h : n ≠ 0) : (ofNat n).head? ≠ some ('0' : CodePoint) := by
  rw [ofNat_eq_digits]
  induction n using Nat.strongRecOn with
  | ind n ih =>
    rw [Nat.toDigits_eq_if (by decide)]
    split
    · next hsmall =>
      have hall : ∀ n < 10, n ≠ 0 →
          (List.map CodePoint.ofChar [n.digitChar]).head? ≠ some ('0' : CodePoint) := by decide
      exact hall n hsmall h
    · next hlarge =>
      have hfirst := ih (n / 10) (by omega) (by omega)
      have hne : (Nat.toDigits 10 (n / 10)).map CodePoint.ofChar ≠ [] :=
        ofNat_eq_digits (n / 10) ▸ ofNat_ne_nil (n / 10)
      obtain ⟨first, more, hfront⟩ := List.exists_cons_of_ne_nil hne
      rw [List.map_append, hfront]
      rwa [hfront] at hfirst

/-! ## Hexadecimal numerals -/

theorem digitsUpTo_of_lt {n : Nat} (h : n < 16) (count : Nat) :
    digitsUpTo 16 (count + 1) n = [digit n] := by
  rw [digitsUpTo, if_pos h]

theorem digitsUpTo_of_le {n : Nat} (h : 16 ≤ n) (count : Nat) :
    digitsUpTo 16 (count + 1) n = digit (n % 16) :: digitsUpTo 16 count (n / 16) := by
  rw [digitsUpTo, if_neg (Nat.not_lt.mpr h)]

/-- A number with more room than it needs has no more digits for that. -/
theorem digitsUpTo_eq {n a b : Nat} (ha : n < 16 ^ (a + 1)) (hb : n < 16 ^ (b + 1)) :
    digitsUpTo 16 (a + 1) n = digitsUpTo 16 (b + 1) n := by
  induction a generalizing n b with
  | zero =>
    have hsmall : n < 16 := by simpa using ha
    rw [digitsUpTo_of_lt hsmall, digitsUpTo_of_lt hsmall]
  | succ a ih =>
    rcases Nat.lt_or_ge n 16 with hsmall | hlarge
    · rw [digitsUpTo_of_lt hsmall, digitsUpTo_of_lt hsmall]
    · cases b with
      | zero => exact absurd (by simpa using hb) (Nat.not_lt.mpr hlarge)
      | succ b =>
        have hdiv {k : Nat} (h : n < 16 ^ (k + 1 + 1)) : n / 16 < 16 ^ (k + 1) :=
          Nat.div_lt_of_lt_mul (by rwa [Nat.pow_succ, Nat.mul_comm] at h)
        rw [digitsUpTo_of_le hlarge, digitsUpTo_of_le hlarge, ih (hdiv ha) (hdiv hb)]

/-- The four digits of a number below `0x10000`. -/
theorem hex_four {n : Nat} (hn : n < 0x10000) :
    hex 4 n = [digit (n / 4096), digit (n / 256 % 16), digit (n / 16 % 16), digit (n % 16)] := by
  have hlog : n < 16 ^ (n.log2 + 1) :=
    Nat.lt_of_lt_of_le Nat.lt_log2_self (Nat.pow_le_pow_left (by decide) _)
  have hdigits : ofNatBase 16 n = (digitsUpTo 16 4 n).reverse := by
    rw [ofNatBase, digitsUpTo_eq hlog (b := 3) (by simpa using hn)]
  have htwice : n / 16 / 16 = n / 256 := by omega
  have hthrice : n / 256 / 16 = n / 4096 := by omega
  rw [hex, hdigits]
  rcases Nat.lt_or_ge n 16 with hone | hone
  · have hzero : n / 4096 = 0 ∧ n / 256 = 0 ∧ n / 16 = 0 ∧ n % 16 = n := by omega
    rw [digitsUpTo_of_lt hone]
    simp only [hzero]
    rfl
  rw [digitsUpTo_of_le hone]
  rcases Nat.lt_or_ge (n / 16) 16 with htwo | htwo
  · have hzero : n / 4096 = 0 ∧ n / 256 = 0 ∧ n / 16 % 16 = n / 16 := by omega
    rw [digitsUpTo_of_lt htwo]
    simp only [hzero]
    rfl
  rw [digitsUpTo_of_le htwo, htwice]
  rcases Nat.lt_or_ge (n / 256) 16 with hthree | hthree
  · have hzero : n / 4096 = 0 ∧ n / 256 % 16 = n / 256 := by omega
    rw [digitsUpTo_of_lt hthree]
    simp only [hzero]
    rfl
  · rw [digitsUpTo_of_le hthree, hthrice, digitsUpTo_of_lt (by omega)]
    rfl

end Text

namespace Number

/-- A numeral spells its number. -/
theorem ofDigits_ofNat (n : Nat) :
    ofDigits ((Text.ofNat n).map fun c => c.val - 0x30) = n := by
  calc ofDigits ((Text.ofNat n).map fun c => c.val - 0x30)
      = Nat.ofDigitChars 10 (Nat.toDigits 10 n) 0 := by
        rw [Text.ofNat_eq_digits, List.map_map, ofDigits, List.foldl_map]
        rfl
    _ = n := Nat.ofDigitChars_ten_toDigits

end Number

end ProseCompiler
