import ProseCompiler.Proofs.Console.Markup
import ProseCompiler.Proofs.Encoding.Utf8

/-!
# What a console puts out

All that a console adds to a text is brackets, spaces and pictures, and none of them is a
surrogate.  So what it shows of a text without surrogates has none (`Markup.render_isScalar`),
and an output in UTF-8 lacks no character of it: a console on such an output follows the rules
of markup (`Console.utf8_followsMarkup`).
-/

namespace ProseCompiler

theorem CodePoint.not_isSurrogate_ofChar (c : Char) : (ofChar c).isSurrogate = false := by
  have hvalid := c.valid
  simp only [UInt32.isValidChar, Nat.isValidChar] at hvalid
  rw [← Bool.not_eq_true]
  intro hsurrogate
  rw [isSurrogate, ofChar_val, Bool.and_eq_true, decide_eq_true_eq, decide_eq_true_eq,
    Char.toNat] at hsurrogate
  omega

namespace Text

variable {s t part new : Text} {c : CodePoint} {skipped : Nat}

/-- A text without surrogates. -/
def IsScalar (t : Text) : Prop := ∀ c ∈ t, c.isSurrogate = false

theorem isScalar_nil : IsScalar [] := nofun

theorem isScalar_cons : IsScalar (c :: t) ↔ c.isSurrogate = false ∧ IsScalar t :=
  List.forall_mem_cons

theorem isScalar_append : IsScalar (s ++ t) ↔ IsScalar s ∧ IsScalar t := List.forall_mem_append

theorem IsScalar.of_subset (h : IsScalar t) (hsubset : s ⊆ t) : IsScalar s :=
  fun c hc => h c (hsubset hc)

theorem isScalar_fill (n : Nat) (hc : c.isSurrogate = false) : IsScalar (fill n c) :=
  fun _ hmem => List.eq_of_mem_replicate hmem ▸ hc

/-- A literal has no surrogates. -/
theorem isScalar_ofString (s : String) : IsScalar (s : Text) := by
  intro c hc
  obtain ⟨char, -, rfl⟩ := List.mem_map.mp hc
  exact CodePoint.not_isSurrogate_ofChar char

theorem IsScalar.replaceFrom (hnew : IsScalar new) (ht : IsScalar t) :
    IsScalar (replaceFrom part new skipped t) := by
  induction t generalizing skipped with
  | nil =>
    cases skipped <;> exact isScalar_nil
  | cons c t ih =>
    obtain ⟨hc, hrest⟩ := isScalar_cons.mp ht
    cases skipped with
    | succ skipped => exact ih hrest
    | zero =>
      rw [Text.replaceFrom]
      split
      · exact isScalar_append.mpr ⟨hnew, ih hrest⟩
      · exact isScalar_cons.mpr ⟨hc, ih hrest⟩

/-- The words of a text are made of its characters. -/
theorem IsScalar.of_mem_words (ht : IsScalar t) : ∀ word ∈ words t, IsScalar word := by
  intro word hword
  rw [words] at hword
  refine List.foldrRecOn (motive := fun pieces => ∀ piece ∈ pieces, IsScalar piece) t _ ?_ ?_
    word (List.mem_of_mem_filter hword)
  · exact List.forall_mem_singleton.mpr isScalar_nil
  · intro pieces hpieces c hc
    split
    · exact List.forall_mem_cons.mpr ⟨isScalar_nil, hpieces⟩
    · split
      · exact List.forall_mem_singleton.mpr (isScalar_cons.mpr ⟨ht c hc, isScalar_nil⟩)
      · obtain ⟨hpiece, hothers⟩ := List.forall_mem_cons.mp hpieces
        exact List.forall_mem_cons.mpr ⟨isScalar_cons.mpr ⟨ht c hc, hpiece⟩, hothers⟩

end Text

open Text (IsScalar isScalar_nil isScalar_cons isScalar_append)

/-! ## Pictures -/

namespace Picture

variable {name picture t : Text} {names : List Text} {skipped : Nat}

theorem mem_of_among? (h : among? name names = some picture) : picture ∈ names := by
  induction names using among?.induct name with
  | case1 found rest =>
    rw [among?, if_pos rfl] at h
    cases h
    exact List.mem_cons_of_mem _ List.mem_cons_self
  | case2 known found rest hne ih =>
    rw [among?, if_neg hne] at h
    exact List.mem_cons_of_mem _ (List.mem_cons_of_mem _ (ih h))
  | case3 names hnone =>
    rw [among?] at h
    · cases h
    · exact hnone

theorem isScalar_mark (t : Text) : IsScalar (splitForm t).2 := by
  have hforms : ∀ entry ∈ forms, entry.2.isSurrogate = false := by decide
  rw [splitForm]
  split
  · next hform =>
    exact isScalar_cons.mpr ⟨hforms _ (List.mem_of_find?_eq_some hform), isScalar_nil⟩
  · exact isScalar_nil

/-- A picture has no surrogates, with or without the mark of a form. -/
theorem isScalar_of_ofName? (h : ofName? t = some picture) : IsScalar picture := by
  rw [ofName?] at h
  obtain ⟨found, hfound, rfl⟩ := Option.map_eq_some_iff.mp h
  have hknown : ∀ word ∈ known, IsScalar word :=
    (Text.isScalar_ofString PictureTable.entries).of_mem_words
  exact isScalar_append.mpr ⟨hknown found (mem_of_among? hfound), isScalar_mark t⟩

theorem subset_of_name? (h : name? t = some name) : name ⊆ t := by
  induction t generalizing name with
  | nil => cases h
  | cons c t ih =>
    rw [name?] at h
    split at h
    · cases h
      exact List.nil_subset _
    · split at h
      · cases h
      · obtain ⟨rest, hrest, rfl⟩ := Option.map_eq_some_iff.mp h
        exact List.cons_subset_cons c (ih hrest)

theorem isScalar_replaceFrom (ht : IsScalar t) : IsScalar (replaceFrom skipped t) := by
  induction t generalizing skipped with
  | nil =>
    cases skipped <;> exact isScalar_nil
  | cons c t ih =>
    obtain ⟨hc, hrest⟩ := isScalar_cons.mp ht
    cases skipped with
    | succ skipped => exact ih hrest
    | zero =>
      rw [replaceFrom]
      split
      · split
        · next name hname =>
          refine isScalar_append.mpr ⟨?_, ih hrest⟩
          cases hpicture : ofName? name with
          | some picture => exact isScalar_of_ofName? hpicture
          | none =>
            have hcolons : IsScalar ":" := Text.isScalar_ofString ":"
            exact isScalar_append.mpr ⟨isScalar_cons.mpr
              ⟨rfl, hrest.of_subset (subset_of_name? hname)⟩, hcolons⟩
        · exact isScalar_cons.mpr ⟨hc, ih hrest⟩
      · exact isScalar_cons.mpr ⟨hc, ih hrest⟩

end Picture

/-! ## Texts with markup -/

namespace Markup

variable {t plain inner shown : Text} {opened : List Text} {skipped position escapes : Nat}
  {pieces : List Piece} {piece : Piece}

/-- A piece that shows no surrogates. -/
def Piece.IsScalar : Piece → Prop
  | .plain t => t.IsScalar
  | .tag .. => True

theorem isScalar_shownPlain (ht : IsScalar t) : IsScalar (shownPlain t) := by
  have hreplaced : IsScalar (Text.replaceAll "\\[" "[" t) :=
    (Text.isScalar_ofString "[").replaceFrom ht
  exact (Picture.isScalar_replaceFrom hreplaced).of_subset (List.filter_subset_self _)

theorem isScalar_of_mem_plainPiece (hplain : IsScalar plain) (h : piece ∈ plainPiece plain) :
    piece.IsScalar := by
  rw [plainPiece] at h
  split at h
  · cases h
  · cases List.mem_singleton.mp h
    exact fun c hc => hplain c (List.mem_reverse.mp hc)

theorem isScalar_of_mem_tagPieces (hinner : IsScalar inner)
    (h : piece ∈ tagPieces position escapes inner) : piece.IsScalar := by
  rcases List.mem_append.mp h with hslashes | htag
  · split at hslashes
    · cases hslashes
    · cases List.mem_singleton.mp hslashes
      exact Text.isScalar_fill _ rfl
  · cases List.mem_singleton.mp htag
    split
    · exact isScalar_append.mpr ⟨isScalar_append.mpr ⟨Text.isScalar_ofString "[", hinner⟩,
        Text.isScalar_ofString "]"⟩
    · trivial

theorem isScalar_of_mem_piecesFrom (hplain : IsScalar plain) (ht : IsScalar t)
    (h : piece ∈ piecesFrom skipped position plain t) : piece.IsScalar := by
  induction t generalizing skipped position plain with
  | nil =>
    cases skipped <;> exact isScalar_of_mem_plainPiece hplain h
  | cons c t ih =>
    obtain ⟨hc, hrest⟩ := isScalar_cons.mp ht
    cases skipped with
    | succ skipped => exact ih hplain hrest h
    | zero =>
      rw [piecesFrom] at h
      split at h
      · next escapes inner htag =>
        obtain ⟨-, after, hafter⟩ := tagAt?_eq_some htag
        have hinner : IsScalar inner := ht.of_subset fun d hd => by
          rw [hafter]
          exact List.mem_append_right _ (List.mem_cons_of_mem _ (List.mem_append_left _ hd))
        rcases List.mem_append.mp h with hbefore | hafter
        · rcases List.mem_append.mp hbefore with hpiece | hpiece
          · exact isScalar_of_mem_plainPiece hplain hpiece
          · exact isScalar_of_mem_tagPieces hinner hpiece
        · exact ih isScalar_nil hrest hafter
      · exact ih (isScalar_cons.mpr ⟨hc, hplain⟩) hrest h

theorem isScalar_of_show? (hpieces : ∀ piece ∈ pieces, piece.IsScalar)
    (h : show? opened pieces = .ok shown) : IsScalar shown := by
  induction pieces generalizing opened shown with
  | nil =>
    cases h
    exact isScalar_nil
  | cons piece rest ih =>
    obtain ⟨hpiece, hrest⟩ := List.forall_mem_cons.mp hpieces
    cases piece with
    | plain t =>
      rw [show?] at h
      cases hshow : show? opened rest with
      | error fault =>
        rw [hshow] at h
        cases h
      | ok after =>
        rw [hshow] at h
        cases h
        exact isScalar_append.mpr ⟨isScalar_shownPlain hpiece, ih hrest hshow⟩
    | tag position tag =>
      rw [show?] at h
      split at h
      · split at h
        · cases h
        · exact ih hrest h
      · exact ih hrest h

theorem isScalar_expandTabs (column : Nat) (ht : IsScalar t) : IsScalar (expandTabs column t) := by
  induction t generalizing column with
  | nil => exact isScalar_nil
  | cons c t ih =>
    obtain ⟨hc, hrest⟩ := isScalar_cons.mp ht
    rw [expandTabs]
    split
    · exact isScalar_append.mpr ⟨Text.isScalar_fill _ rfl, ih _ hrest⟩
    · exact isScalar_cons.mpr ⟨hc, ih _ hrest⟩

/-- What is shown of a text without surrogates has none. -/
theorem render_isScalar (ht : IsScalar t) (h : render t = .ok shown) : IsScalar shown := by
  rw [render] at h
  cases hshow : show? [] (Markup.pieces t) with
  | error fault =>
    rw [hshow] at h
    cases h
  | ok expanded =>
    rw [hshow] at h
    cases h
    refine isScalar_expandTabs 0 (isScalar_of_show? ?_ hshow)
    exact fun _ => isScalar_of_mem_piecesFrom isScalar_nil ht

end Markup

/-- A console on an output in UTF-8 follows the rules of markup. -/
theorem Console.utf8_followsMarkup : Console.utf8.FollowsMarkup := by
  intro t ht
  cases hrender : Markup.render t with
  | error fault =>
    simp only [utf8, hrender]
  | ok shown =>
    have hscalar := Markup.render_isScalar ht.characters hrender
    simp only [utf8, hrender, Utf8.encode_eq_ok_iff.mpr ⟨hscalar, rfl⟩]

end ProseCompiler
