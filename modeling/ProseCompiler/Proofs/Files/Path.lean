import ProseCompiler.Files.Path
import ProseCompiler.Proofs.Text.Pieces

/-!
# Names and clean locations

A piece of a path names an entry if it is not empty, is neither of the dots, and
holds no slash.  A location made of names is clean: its text splits into those
names again, and walking along the pieces of any text keeps a location clean.
-/

namespace ProseCompiler

namespace Path

/-- What an entry of a directory can be called. -/
def IsName (piece : Text) : Prop :=
  piece ≠ [] ∧ piece ≠ here ∧ piece ≠ up ∧ ('/' : CodePoint) ∉ piece

instance (piece : Text) : Decidable (IsName piece) := inferInstanceAs (Decidable (_ ∧ _))

theorem not_mem_of_mem_pieces {t piece : Text} (hpiece : piece ∈ pieces t) :
    ('/' : CodePoint) ∉ piece :=
  Text.not_mem_of_mem_splitOn hpiece

end Path

namespace Location

/-- Every part of the location is a name. -/
def IsClean (l : Location) : Prop := ∀ name ∈ l, Path.IsName name

instance (l : Location) : Decidable l.IsClean := inferInstanceAs (Decidable (∀ name ∈ l, _))

variable {l m : Location} {name : Text}

theorem IsClean.nil : IsClean [] := fun _ hname => absurd hname List.not_mem_nil

theorem IsClean.of_append (hclean : IsClean (l ++ m)) : l.IsClean :=
  fun _ hname => hclean _ (List.mem_append_left m hname)

theorem IsClean.last (hclean : IsClean (l ++ [name])) : Path.IsName name :=
  hclean name (List.mem_append_right l List.mem_cons_self)

theorem IsClean.concat (hclean : l.IsClean) (hname : Path.IsName name) : IsClean (l ++ [name]) := by
  intro other hother
  rcases List.mem_append.mp hother with hother | hother
  · exact hclean other hother
  · rw [List.mem_singleton.mp hother]
    exact hname

theorem IsClean.parent (hclean : l.IsClean) : IsClean (parent l) :=
  fun _ hname => hclean _ ((List.dropLast_sublist l).mem hname)

/-! ## Walking -/

/-- Pieces without slashes lead from a clean location to a clean one. -/
theorem walk_isClean {pieces : List Text} (hpieces : ∀ piece ∈ pieces, ('/' : CodePoint) ∉ piece)
    (hclean : l.IsClean) : (walk l pieces).IsClean := by
  induction pieces generalizing l with
  | nil => exact hclean
  | cons piece pieces ih =>
    have hrest := fun other hother => hpieces other (List.mem_cons_of_mem piece hother)
    rw [walk]
    by_cases hidle : piece = [] ∨ piece = Path.here
    · rw [if_pos hidle]
      exact ih hrest hclean
    · rw [if_neg hidle]
      rw [not_or] at hidle
      by_cases hup : piece = Path.up
      · rw [if_pos hup]
        exact ih hrest hclean.parent
      · rw [if_neg hup]
        exact ih hrest
          (hclean.concat ⟨hidle.1, hidle.2, hup, hpieces piece List.mem_cons_self⟩)

theorem ofText_isClean (hclean : l.IsClean) (t : Text) : (ofText l t).IsClean := by
  refine walk_isClean (fun _ => Path.not_mem_of_mem_pieces) ?_
  split
  · exact hclean
  · exact .nil

/-! ## The text of a location -/

theorem text_eq (l : Location) : text l = ('/' : CodePoint) :: Text.joinWith "/" l := rfl

/-- The text of a place starts with that of any place above it. -/
theorem text_isPrefix_append (l m : Location) : text l <+: text (l ++ m) :=
  (List.prefix_cons_inj _).mpr (Text.joinWith_isPrefix_append _ l m)

/-- The text of a clean location splits into its names, behind an empty piece;
the root alone has two empty pieces. -/
theorem pieces_text (hclean : l.IsClean) (hne : l ≠ []) : Path.pieces (text l) = [] :: l := by
  have hslash : ∀ piece ∈ l, ('/' : CodePoint) ∉ piece :=
    fun piece hpiece => (hclean piece hpiece).2.2.2
  rw [text_eq, Path.pieces, Text.splitOn_cons_self]
  exact congrArg _ (Text.splitOn_joinWith hslash hne)

theorem pieces_text_nil : Path.pieces (text []) = [[], []] := rfl

/-- The text of a clean location starts at the root. -/
theorem anchorOf_text (hclean : l.IsClean) : Path.anchorOf (text l) = .root := by
  have hfirst : (Text.joinWith "/" l).head? ≠ some ('/' : CodePoint) := by
    cases l with
    | nil => simp [Text.joinWith]
    | cons name l =>
      obtain ⟨hne, -, -, hslash⟩ := hclean name List.mem_cons_self
      obtain ⟨c, t, rfl⟩ := List.exists_cons_of_ne_nil hne
      have hc : c ≠ ('/' : CodePoint) := fun h => hslash (h ▸ List.mem_cons_self)
      cases l <;> simpa [Text.joinWith] using hc
  have hlength : ((text l).takeWhile fun (c : CodePoint) => c = '/').length = 1 := by
    rw [text_eq, List.takeWhile_cons]
    cases hjoined : Text.joinWith "/" l with
    | nil => simp
    | cons c t =>
      rw [hjoined] at hfirst
      simp only [List.head?_cons, ne_eq, Option.some.injEq] at hfirst
      simp [hfirst]
  simp only [Path.anchorOf, hlength]

end Location

end ProseCompiler
