import ProseCompiler.Files.Glob
import Mathlib.Data.List.Basic

/-!
# What patterns for names match

Behind a star a pattern matches a name if it matches some ending of it: `matchName_star_iff`.
So a star and a text match every name that ends with the text as soon as they match the text
itself (`matchName_star_append`), which they do unless the text has a bracket in it
(`matchName_star_self`).
-/

namespace ProseCompiler.NamePart

variable {parts : List NamePart} {t ending : Text}

@[simp] theorem ofText_star (t : Text) : ofText ('*' :: t) = .anything :: ofText t := by
  rw [ofText, if_pos rfl]

theorem matchName_star_iff :
    matchName (.anything :: parts) t = true ↔ ∃ rest, rest <:+ t ∧ matchName parts rest = true := by
  induction t with
  | nil => simp [matchName]
  | cons c t ih =>
    rw [matchName, Bool.or_eq_true, ih]
    constructor
    · rintro (hmatch | ⟨rest, hrest, hmatch⟩)
      · exact ⟨c :: t, List.suffix_refl _, hmatch⟩
      · exact ⟨rest, hrest.trans (List.suffix_cons c t), hmatch⟩
    · rintro ⟨rest, hrest, hmatch⟩
      rcases List.suffix_cons_iff.mp hrest with rfl | hrest
      · exact .inl hmatch
      · exact .inr ⟨rest, hrest, hmatch⟩

/-- What a star and a text match is matched with anything before it. -/
theorem matchName_star_append (h : matchName (ofText ('*' :: t)) ending = true) (start : Text) :
    matchName (ofText ('*' :: t)) (start ++ ending) = true := by
  rw [ofText_star] at h ⊢
  obtain ⟨rest, hrest, hmatch⟩ := matchName_star_iff.mp h
  exact matchName_star_iff.mpr ⟨rest, hrest.trans (List.suffix_append start ending), hmatch⟩

/-- A text without brackets is matched by itself. -/
theorem matchName_self (h : ('[' : CodePoint) ∉ t) : matchName (ofText t) t = true := by
  induction t with
  | nil => simp [ofText, matchName]
  | cons c t ih =>
    rw [List.mem_cons, not_or] at h
    have hrest := ih h.2
    rw [ofText]
    split
    · exact matchName_star_iff.mpr ⟨t, List.suffix_cons c t, hrest⟩
    · split
      · rw [matchName]
        exact hrest
      · rw [if_neg (Ne.symm h.1), matchName, hrest, beq_self_eq_true]
        rfl

theorem matchName_star_self (h : ('[' : CodePoint) ∉ t) :
    matchName (ofText ('*' :: t)) t = true := by
  rw [ofText_star]
  exact matchName_star_iff.mpr ⟨t, List.suffix_refl t, matchName_self h⟩

end ProseCompiler.NamePart
