import ProseCompiler.Text.Basic
import Mathlib.Data.List.Sort

/-!
# The order of texts

Texts are ordered by their code points, and no two texts stand at one place of that
order.  So a list of texts has one sorted form, whatever order it came in:
`sort_eq_of_perm`.
-/

namespace ProseCompiler

namespace Text

variable {r s t : Text}

theorem le_total (s t : Text) : (le s t || le t s) = true := by
  induction s generalizing t with
  | nil => simp [le]
  | cons a s ih =>
    cases t with
    | nil => simp [le]
    | cons b t =>
      rcases Nat.lt_trichotomy a.val b.val with hlt | heq | hgt
      · simp [le, hlt]
      · simpa [le, heq] using ih t
      · simp [le, hgt]

theorem le_cons_iff {a b : CodePoint} :
    le (a :: s) (b :: t) = true ↔ a.val < b.val ∨ a = b ∧ le s t = true := by
  rcases Nat.lt_trichotomy a.val b.val with hlt | heq | hgt
  · simp [le, hlt]
  · have hab : a = b := CodePoint.ext heq
    simp [le, hab]
  · have hab : a ≠ b := fun hab => absurd hgt (by simp [hab])
    simp [le, hgt, hab, Nat.not_lt.mpr (Nat.le_of_lt hgt)]

theorem le_trans (hrs : le r s = true) (hst : le s t = true) : le r t = true := by
  induction r generalizing s t with
  | nil => simp [le]
  | cons a r ih =>
    cases s with
    | nil => simp [le] at hrs
    | cons b s =>
      cases t with
      | nil => simp [le] at hst
      | cons c t =>
        rw [le_cons_iff] at hrs hst ⊢
        rcases hrs with hab | ⟨rfl, hrs⟩ <;> rcases hst with hbc | ⟨rfl, hst⟩
        · exact .inl (Nat.lt_trans hab hbc)
        · exact .inl hab
        · exact .inl hbc
        · exact .inr ⟨rfl, ih hrs hst⟩

theorem le_antisymm (hst : le s t = true) (hts : le t s = true) : s = t := by
  induction s generalizing t with
  | nil =>
    cases t with
    | nil => rfl
    | cons b t => simp [le] at hts
  | cons a s ih =>
    cases t with
    | nil => simp [le] at hst
    | cons b t =>
      rw [le_cons_iff] at hst hts
      rcases hst with hab | ⟨rfl, hst⟩
      · rcases hts with hba | ⟨rfl, -⟩ <;> omega
      · rcases hts with haa | ⟨-, hts⟩
        · omega
        · rw [ih hst hts]

/-- The order in which texts come does not show once they are sorted. -/
theorem sort_eq_of_perm {ts us : List Text} (h : ts.Perm us) : sort ts = sort us := by
  have hsorted : ∀ ts : List Text, (sort ts).Pairwise fun s t => le s t = true := fun ts =>
    @List.pairwise_mergeSort _ le (fun _ _ _ => le_trans) le_total ts
  have hperm : (sort ts).Perm (sort us) :=
    ((List.mergeSort_perm ts le).trans h).trans (List.mergeSort_perm us le).symm
  exact hperm.eq_of_pairwise (fun _ _ _ _ => le_antisymm) (hsorted ts) (hsorted us)

end Text

end ProseCompiler
