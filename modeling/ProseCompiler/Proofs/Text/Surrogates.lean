import Mathlib.Data.List.Chain
import ProseCompiler.Text.Basic

/-!
# Surrogates in texts

The halves of a surrogate pair are code points of their own.  A text is `Unpaired` if nowhere in
it the two halves of a pair stand side by side; where they do, an encoding by pairs cannot tell
them from the one code point of the pair.
-/

namespace ProseCompiler

namespace CodePoint

/-- The half of a surrogate pair that comes first. -/
def IsHighHalf (c : CodePoint) : Prop := 0xD800 ≤ c.val ∧ c.val < 0xDC00

/-- The half of a surrogate pair that comes second. -/
def IsLowHalf (c : CodePoint) : Prop := 0xDC00 ≤ c.val ∧ c.val < 0xE000

instance (c : CodePoint) : Decidable c.IsHighHalf :=
  inferInstanceAs (Decidable (0xD800 ≤ c.val ∧ c.val < 0xDC00))

instance (c : CodePoint) : Decidable c.IsLowHalf :=
  inferInstanceAs (Decidable (0xDC00 ≤ c.val ∧ c.val < 0xE000))

theorem isSurrogate_of_isHighHalf {c : CodePoint} (h : c.IsHighHalf) : c.isSurrogate = true := by
  rw [IsHighHalf] at h
  simp only [isSurrogate, Bool.and_eq_true, decide_eq_true_eq]
  omega

end CodePoint

namespace Text

/-- No first half of a surrogate pair stands before a second half. -/
def Unpaired (t : Text) : Prop := t.IsChain fun c d => ¬(c.IsHighHalf ∧ d.IsLowHalf)

instance (t : Text) : Decidable t.Unpaired :=
  inferInstanceAs (Decidable (t.IsChain fun c d => ¬(c.IsHighHalf ∧ d.IsLowHalf)))

variable {c : CodePoint} {t : Text}

theorem unpaired_nil : Unpaired [] := List.isChain_nil

theorem unpaired_cons_iff :
    Unpaired (c :: t) ↔ (c.IsHighHalf → ∀ d, t.head? = some d → ¬d.IsLowHalf) ∧ Unpaired t := by
  cases t with
  | nil => simp [Unpaired]
  | cons d t => simp [Unpaired]

/-- A text without surrogates has no pair of them. -/
theorem unpaired_of_scalar (h : ∀ c ∈ t, c.isSurrogate = false) : t.Unpaired := by
  induction t with
  | nil => exact unpaired_nil
  | cons c t ih =>
    obtain ⟨hc, ht⟩ := List.forall_mem_cons.mp h
    refine unpaired_cons_iff.mpr ⟨fun hhigh => ?_, ih ht⟩
    rw [CodePoint.isSurrogate_of_isHighHalf hhigh] at hc
    cases hc

end Text

end ProseCompiler
