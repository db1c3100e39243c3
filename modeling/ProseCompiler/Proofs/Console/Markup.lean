import Mathlib.Data.List.Perm.Subperm
import Mathlib.Data.List.TakeWhile
import ProseCompiler.Console.Markup

/-!
# Texts that can be shown

A text with markup is shown unless a closing tag in it closes nothing.  So a line whose
own tags are balanced is shown with any text set into it that holds no start of a closing
tag.  `Markup.Fares` says whether a text is shown behind open styles, and is built up from
the parts of a line.

A text that is set into a line may hold opening tags and backslashes.  It cannot take a
tag of the line apart, as long as the line goes on with something that is neither a
bracket nor a backslash and closes no bracket (`Fares.inserted`).  Where the line goes on
with a closing tag, a backslash at the end of the text may keep the tag from being one, and
counting the closing tags is enough (`Fares.of_closings`).

Other consoles may read more into a tag than its name, or have an output that lacks some
characters.  They are held to these rules for ordinary texts only (`Markup.IsOrdinary`,
`Console.FollowsMarkup`).
-/

namespace ProseCompiler

namespace Markup

variable {t m s rest after inner name plain : Text} {c : CodePoint} {opened : List Text}
  {skipped position escapes : Nat} {before pieces : List Piece} {style : Text}

/-! ## Brackets -/

/-- Whether a code point does not end the inside of a tag. -/
def isInside (c : CodePoint) : Bool := c ≠ ']' && c ≠ '['

/-- What stands in brackets: it starts like a tag, and no bracket is in it. -/
structure IsInner (inner : Text) : Prop where
  starts : ∃ c, inner.head? = some c ∧ startsTag c = true
  inside : ∀ c ∈ inner, isInside c = true

instance (inner : Text) : Decidable (IsInner inner) :=
  decidable_of_iff (inner.head?.any startsTag = true ∧ ∀ c ∈ inner, isInside c = true)
    ⟨fun ⟨hstarts, hinside⟩ => ⟨(Option.any_eq_true _ _).mp hstarts, hinside⟩,
      fun ⟨hstarts, hinside⟩ => ⟨(Option.any_eq_true _ _).mpr hstarts, hinside⟩⟩

theorem isInside_of_startsTag (h : startsTag c = true) : isInside c = true := by
  have hclosing : c ≠ ']' := by
    rintro rfl
    exact absurd h (by decide)
  have hopening : c ≠ '[' := by
    rintro rfl
    exact absurd h (by decide)
  simp [isInside, hclosing, hopening]

theorem takeWhile_inside (h : ∀ c ∈ inner, isInside c = true) :
    (inner ++ (']' : CodePoint) :: rest).takeWhile isInside = inner := by
  rw [List.takeWhile_append_of_pos h, List.takeWhile_cons_of_neg (by decide), List.append_nil]

theorem bracketed?_cons_cons (a b : CodePoint) (rest : Text) :
    bracketed? (a :: b :: rest) =
      if a = '[' ∧ startsTag b = true then
        if (rest.drop (rest.takeWhile isInside).length).head? = some (']' : CodePoint) then
          some (b :: rest.takeWhile isInside)
        else none
      else none := rfl

theorem bracketed?_eq_some_iff :
    bracketed? t = some inner ↔
      IsInner inner ∧ ∃ rest, t = ('[' : CodePoint) :: (inner ++ (']' : CodePoint) :: rest) := by
  constructor
  · intro h
    match t, h with
    | a :: b :: rest, h =>
      rw [bracketed?_cons_cons] at h
      split at h
      case isFalse => cases h
      next hstart =>
      obtain ⟨rfl, hstart⟩ := hstart
      obtain ⟨after, hafter⟩ := List.takeWhile_prefix isInside (l := rest)
      generalize hinner : rest.takeWhile isInside = inside at h hafter
      subst hafter
      rw [List.drop_left] at h
      split at h
      case isFalse => cases h
      next hclosed =>
      cases h
      obtain ⟨rest, rfl⟩ : ∃ rest, after = (']' : CodePoint) :: rest :=
        ⟨after.tail, (List.head?_eq_some_iff.mp hclosed).elim fun rest h => by rw [h]; rfl⟩
      refine ⟨⟨⟨b, rfl, hstart⟩, fun c hc => ?_⟩, rest, rfl⟩
      rcases List.mem_cons.mp hc with rfl | hc
      · exact isInside_of_startsTag hstart
      · rw [← hinner] at hc
        exact List.mem_takeWhile_imp hc
  · rintro ⟨⟨⟨c, hhead, hstart⟩, hinside⟩, rest, rfl⟩
    obtain ⟨inner, rfl⟩ := List.head?_eq_some_iff.mp hhead
    have hinner : (inner ++ (']' : CodePoint) :: rest).takeWhile isInside = inner :=
      takeWhile_inside fun e he => hinside e (List.mem_cons_of_mem _ he)
    rw [List.cons_append, bracketed?_cons_cons, if_pos ⟨rfl, hstart⟩, hinner, List.drop_left,
      List.head?_cons, if_pos rfl]

theorem bracketed?_of_ne (hc : c ≠ '[') (t : Text) : bracketed? (c :: t) = none := by
  rw [Option.eq_none_iff_forall_ne_some]
  intro inner h
  obtain ⟨-, rest, hrest⟩ := bracketed?_eq_some_iff.mp h
  exact hc (List.cons.inj hrest).1

/-- A tag stands in brackets, with its backslashes before it. -/
theorem tagAt?_eq_some (h : tagAt? t = some (escapes, inner)) :
    IsInner inner ∧ ∃ rest, t = List.replicate escapes ('\\' : CodePoint) ++
      ('[' : CodePoint) :: (inner ++ (']' : CodePoint) :: rest) := by
  rw [tagAt?, Option.map_eq_some_iff] at h
  obtain ⟨inner', hbracketed, heq⟩ := h
  obtain ⟨after, hafter⟩ := List.takeWhile_prefix (fun (c : CodePoint) => c = '\\') (l := t)
  generalize hslashes : t.takeWhile (fun (c : CodePoint) => c = '\\') = slashes at *
  subst hafter
  rw [List.drop_left] at hbracketed
  obtain ⟨hinner, rest, rfl⟩ := bracketed?_eq_some_iff.mp hbracketed
  cases heq
  refine ⟨hinner, rest, ?_⟩
  have hall : ∀ c ∈ slashes, c = ('\\' : CodePoint) := by
    intro c hc
    rw [← hslashes] at hc
    have hslash := List.mem_takeWhile_imp hc
    exact of_decide_eq_true hslash
  rw [← List.eq_replicate_iff.mpr ⟨rfl, hall⟩]

theorem tagAt?_of_inner (hinner : IsInner inner) (rest : Text) :
    tagAt? (('[' : CodePoint) :: (inner ++ (']' : CodePoint) :: rest)) = some (0, inner) := by
  have hnone : (('[' : CodePoint) :: (inner ++ (']' : CodePoint) :: rest)).takeWhile
      (fun (c : CodePoint) => c = '\\') = [] := List.takeWhile_cons_of_neg (by decide)
  rw [tagAt?, hnone, List.length_nil, List.drop_zero,
    bracketed?_eq_some_iff.mpr ⟨hinner, rest, rfl⟩, Option.map_some]

theorem tagAt?_of_plain (hopening : c ≠ '[') (hslash : c ≠ '\\') (t : Text) :
    tagAt? (c :: t) = none := by
  have hnone : (c :: t).takeWhile (fun (c : CodePoint) => c = '\\') = [] :=
    List.takeWhile_cons_of_neg (by simpa using hslash)
  rw [tagAt?, hnone, List.length_nil, List.drop_zero, bracketed?_of_ne hopening, Option.map_none]

/-! ## Tags of a line -/

/-- A name that a line can have in its tags: it stands for itself. -/
structure IsStyle (style : Text) : Prop where
  inner : IsInner style
  opens : style.head? ≠ some ('/' : CodePoint)
  bare : ('=' : CodePoint) ∉ style
  trimmed : Text.trim style = style

instance (style : Text) : Decidable (IsStyle style) :=
  decidable_of_iff (IsInner style ∧ style.head? ≠ some ('/' : CodePoint) ∧
      ('=' : CodePoint) ∉ style ∧ Text.trim style = style)
    ⟨fun ⟨h₁, h₂, h₃, h₄⟩ => ⟨h₁, h₂, h₃, h₄⟩, fun ⟨h₁, h₂, h₃, h₄⟩ => ⟨h₁, h₂, h₃, h₄⟩⟩

/-- The tag that opens a style. -/
def openingTag (style : Text) : Text := ('[' : CodePoint) :: (style ++ [(']' : CodePoint)])

/-- The tag that closes a style. -/
def closingTag (style : Text) : Text := openingTag (('/' : CodePoint) :: style)

theorem openingTag_append (style rest : Text) :
    openingTag style ++ rest = ('[' : CodePoint) :: (style ++ (']' : CodePoint) :: rest) := by
  simp [openingTag]

/-- A text without an equals sign is a name. -/
theorem Tag.ofText_of_not_mem (h : ('=' : CodePoint) ∉ t) : ofText t = ⟨t, none⟩ := by
  have hcut : Text.cutAt? '=' t = none := by
    induction t with
    | nil => rfl
    | cons c t ih =>
      rw [List.mem_cons, not_or] at h
      rw [Text.cutAt?, if_neg (Ne.symm h.1), ih h.2, Option.map_none]
  rw [ofText, hcut]

namespace IsStyle

theorem ofText (h : IsStyle style) : Tag.ofText style = ⟨style, none⟩ :=
  Tag.ofText_of_not_mem h.bare

theorem ofText_slash (h : IsStyle style) :
    Tag.ofText (('/' : CodePoint) :: style) = ⟨('/' : CodePoint) :: style, none⟩ := by
  refine Tag.ofText_of_not_mem fun hmem => ?_
  rcases List.mem_cons.mp hmem with hslash | hmem
  · exact absurd hslash (by decide)
  · exact h.bare hmem

theorem inner_slash (h : IsStyle style) : IsInner (('/' : CodePoint) :: style) where
  starts := ⟨_, rfl, by decide⟩
  inside := by
    intro c hc
    rcases List.mem_cons.mp hc with rfl | hc
    · decide
    · exact h.inner.inside c hc

theorem ne_nil (h : IsStyle style) : style ≠ [] := by
  rintro rfl
  obtain ⟨c, hc, -⟩ := h.inner.starts
  cases hc

end IsStyle

/-! ## Pieces -/

/-- The rest of a tag is passed over. -/
theorem piecesFrom_skip (m : Text) :
    piecesFrom m.length position plain (m ++ rest) =
      piecesFrom 0 (position + m.length) plain rest := by
  induction m generalizing position with
  | nil => rfl
  | cons c m ih =>
    rw [List.length_cons, List.cons_append, piecesFrom, ih]
    congr 1
    omega

theorem piecesFrom_plain (hm : ∀ c ∈ m, c ≠ '[' ∧ c ≠ '\\') :
    piecesFrom 0 position plain (m ++ rest) =
      piecesFrom 0 (position + m.length) (m.reverse ++ plain) rest := by
  induction m generalizing position plain with
  | nil => rfl
  | cons c m ih =>
    obtain ⟨hopening, hslash⟩ := hm c List.mem_cons_self
    rw [List.cons_append, piecesFrom, tagAt?_of_plain hopening hslash]
    simp only
    rw [ih fun d hd => hm d (List.mem_cons_of_mem c hd), List.length_cons, List.reverse_cons,
      List.append_assoc]
    congr 1
    omega

theorem piecesFrom_tag (hinner : IsInner inner) :
    piecesFrom 0 position plain (('[' : CodePoint) :: (inner ++ (']' : CodePoint) :: rest)) =
      plainPiece plain ++ .tag position (Tag.ofText inner) ::
        piecesFrom 0 (position + inner.length + 2) [] rest := by
  rw [piecesFrom, tagAt?_of_inner hinner]
  have hsplit : inner ++ (']' : CodePoint) :: rest = (inner ++ [(']' : CodePoint)]) ++ rest := by
    simp
  have hlength : 0 + inner.length + 1 = (inner ++ [(']' : CodePoint)]).length := by simp
  simp only
  rw [hlength, hsplit, piecesFrom_skip]
  have hposition : position + 1 + (inner ++ [(']' : CodePoint)]).length =
      position + inner.length + 2 := by
    rw [List.length_append, List.length_singleton]
    omega
  rw [hposition, List.append_assoc]
  rfl

/-! ## Closing tags -/

/-- Whether a tag closes a style. -/
def Tag.Closes (tag : Tag) : Prop := tag.name.head? = some ('/' : CodePoint)

instance : DecidablePred Tag.Closes := fun tag =>
  inferInstanceAs (Decidable (tag.name.head? = some ('/' : CodePoint)))

/-- The name that a closing tag has. -/
def Tag.closedName (tag : Tag) : Text := Text.trim (tag.name.drop 1)

theorem IsStyle.closedName (h : IsStyle style) :
    Tag.closedName ⟨('/' : CodePoint) :: style, none⟩ = style := h.trimmed

/-- The closing tags among pieces. -/
def closers : List Piece → List Tag
  | [] => []
  | .plain _ :: rest => closers rest
  | .tag _ tag :: rest => if tag.Closes then tag :: closers rest else closers rest

@[simp] theorem closers_append (first second : List Piece) :
    closers (first ++ second) = closers first ++ closers second := by
  induction first with
  | nil => rfl
  | cons piece first ih =>
    cases piece with
    | plain t => exact ih
    | tag position tag =>
      rw [List.cons_append, closers, closers, ih]
      split <;> rfl

@[simp] theorem closers_plainPiece (plain : Text) : closers (plainPiece plain) = [] := by
  rw [plainPiece]
  split <;> rfl

/-! ## Shown pieces -/

/-- Whether pieces are shown behind open styles. -/
def isShown (opened : List Text) (pieces : List Piece) : Bool :=
  match show? opened pieces with
  | .ok _ => true
  | .error _ => false

@[simp] theorem isShown_plain (t : Text) :
    isShown opened (.plain t :: pieces) = isShown opened pieces := by
  rw [isShown, isShown, show?]
  cases show? opened pieces <;> rfl

theorem isShown_plainPiece (plain : Text) :
    isShown opened (plainPiece plain ++ pieces) = isShown opened pieces := by
  rw [plainPiece]
  split
  · rfl
  · exact isShown_plain _

theorem isShown_of_not_closes {tag : Tag} (h : ¬tag.Closes) :
    isShown opened (.tag position tag :: pieces) =
      isShown (Style.normalName tag.name :: opened) pieces := by
  have hhead : ¬tag.name.head? = some ('/' : CodePoint) := h
  rw [isShown, isShown, show?, if_neg hhead]

theorem isShown_of_closes {tag : Tag} (h : tag.Closes) (hname : tag.closedName ≠ []) :
    isShown opened (.tag position tag :: pieces) =
      (decide (Style.normalName tag.closedName ∈ opened) &&
        isShown (opened.erase (Style.normalName tag.closedName)) pieces) := by
  have hhead : tag.name.head? = some ('/' : CodePoint) := h
  rw [isShown, isShown, show?, if_pos hhead]
  by_cases hopened : Style.normalName tag.closedName ∈ opened
  · have hclose : close position tag opened =
        .ok (opened.erase (Style.normalName tag.closedName)) :=
      (if_neg hname).trans (if_pos (List.contains_iff_mem.mpr hopened))
    rw [hclose, decide_eq_true hopened, Bool.true_and]
  · obtain ⟨fault, hclose⟩ : ∃ fault, close position tag opened = .error fault :=
      ⟨_, (if_neg hname).trans (if_neg (mt List.contains_iff_mem.mp hopened))⟩
    rw [hclose, decide_eq_false hopened, Bool.false_and]

/-- Pieces are shown if the styles that they close are open already, as often as they are
closed. -/
theorem isShown_of_subperm (hnames : ∀ tag ∈ closers pieces, tag.closedName ≠ [])
    (h : List.Subperm ((closers pieces).map fun tag => Style.normalName tag.closedName) opened) :
    isShown opened pieces = true := by
  induction pieces generalizing opened with
  | nil => rfl
  | cons piece rest ih =>
    cases piece with
    | plain t =>
      rw [isShown_plain]
      exact ih hnames h
    | tag position tag =>
      by_cases hcloses : tag.Closes
      · have hclosers : closers (.tag position tag :: rest) = tag :: closers rest :=
          if_pos hcloses
        rw [hclosers] at hnames h
        rw [List.map_cons] at h
        rw [isShown_of_closes hcloses (hnames tag List.mem_cons_self),
          decide_eq_true (h.subset List.mem_cons_self), Bool.true_and]
        refine ih (fun other hother => hnames other (List.mem_cons_of_mem tag hother)) ?_
        have herase := h.erase (Style.normalName tag.closedName)
        rwa [List.erase_cons_head] at herase
      · have hclosers : closers (.tag position tag :: rest) = closers rest := if_neg hcloses
        rw [hclosers] at hnames h
        rw [isShown_of_not_closes hcloses]
        exact ih hnames (h.cons_right _)

/-- Pieces that close nothing may leave styles open for what comes after them. -/
theorem isShown_append {shown : Bool} (hbefore : closers before = [])
    (h : ∀ opened', opened <:+ opened' → isShown opened' pieces = shown) :
    isShown opened (before ++ pieces) = shown := by
  induction before generalizing opened with
  | nil => exact h opened (List.suffix_refl opened)
  | cons piece before ih =>
    cases piece with
    | plain t =>
      rw [List.cons_append, isShown_plain]
      exact ih hbefore h
    | tag position tag =>
      rw [closers] at hbefore
      split at hbefore
      case isTrue => cases hbefore
      next hcloses =>
      rw [List.cons_append, isShown_of_not_closes hcloses]
      exact ih hbefore fun opened' hmore => h opened' ((List.suffix_cons _ opened).trans hmore)

/-! ## Closing tags of a text -/

/-- The start of a closing tag does not occur in a text. -/
def ClosesNothing (t : Text) : Prop := ¬("[/" : Text) <:+: t

/-- Whether a part occurs in a text can be computed. -/
theorem hasPart_iff {part : Text} : Text.hasPart part t = true ↔ part <:+: t := by
  induction t with
  | nil => rw [Text.hasPart, List.isEmpty_iff, List.infix_nil]
  | cons c t ih =>
    rw [Text.hasPart, Bool.or_eq_true, ih, List.isPrefixOf_iff_prefix, List.infix_cons_iff]

instance (t : Text) : Decidable (ClosesNothing t) := decidable_of_iff (¬Text.hasPart "[/" t = true)
  (not_congr hasPart_iff)

/-- The closing tags that stand in brackets anywhere in a text, escaped or not. -/
def closings : Text → List Tag
  | [] => []
  | c :: t =>
    match bracketed? (c :: t) with
    | some inner =>
      if (Tag.ofText inner).Closes then Tag.ofText inner :: closings t else closings t
    | none => closings t

/-- A tag that closes is written with a slash first. -/
theorem head?_of_closes (h : (Tag.ofText inner).Closes) :
    inner.head? = some ('/' : CodePoint) := by
  cases inner with
  | nil => exact absurd h (by decide)
  | cons c rest =>
    rw [Tag.Closes, Tag.ofText, Text.cutAt?] at h
    by_cases hc : c = '='
    · rw [if_pos hc] at h
      cases h
    · rw [if_neg hc] at h
      cases hcut : Text.cutAt? '=' rest with
      | none =>
        rw [hcut] at h
        exact h
      | some parts =>
        rw [hcut] at h
        exact h

theorem closings_sublist_cons (c : CodePoint) (t : Text) : (closings t).Sublist (closings (c :: t)) := by
  rw [closings.eq_def (c :: t)]
  simp only
  split
  · split
    · exact List.sublist_cons_self _ _
    · exact List.Sublist.refl _
  · exact List.Sublist.refl _

theorem closings_sublist_append (m t : Text) : (closings t).Sublist (closings (m ++ t)) := by
  induction m with
  | nil => exact List.Sublist.refl _
  | cons c m ih => exact ih.trans (closings_sublist_cons c _)

theorem closings_of_ne (hc : c ≠ '[') (t : Text) : closings (c :: t) = closings t := by
  rw [closings, bracketed?_of_ne hc]

/-- A text in which no closing tag starts adds none to what comes after it. -/
theorem closings_append (hm : ClosesNothing m) (ht : t.head? ≠ some ('/' : CodePoint)) :
    closings (m ++ t) = closings t := by
  induction m with
  | nil => rfl
  | cons c m ih =>
    have htail := ih fun hpart => hm (List.infix_cons hpart)
    rw [List.cons_append, closings]
    split
    · next inner hbracketed =>
      rw [if_neg, htail]
      intro hcloses
      obtain ⟨rest, hrest⟩ := List.head?_eq_some_iff.mp (head?_of_closes hcloses)
      obtain ⟨-, after, hafter⟩ := bracketed?_eq_some_iff.mp hbracketed
      rw [hrest, List.cons_append, List.cons.injEq] at hafter
      obtain ⟨rfl, hafter⟩ := hafter
      cases m with
      | nil => exact ht (by rw [← List.nil_append t, hafter]; rfl)
      | cons d m =>
        rw [List.cons_append, List.cons.injEq] at hafter
        rw [hafter.1] at hm
        exact hm ⟨[], m, rfl⟩
    · exact htail

theorem closings_replicate (escapes : Nat) (t : Text) :
    closings (List.replicate escapes ('\\' : CodePoint) ++ t) = closings t := by
  induction escapes with
  | zero => rfl
  | succ escapes ih =>
    rw [List.replicate_succ, List.cons_append, closings_of_ne (by decide), ih]

theorem closers_tagPieces_sublist (position escapes : Nat) (inner : Text) :
    (closers (tagPieces position escapes inner)).Sublist
      (if (Tag.ofText inner).Closes then [Tag.ofText inner] else []) := by
  have hslashes : closers (if escapes / 2 = 0 then []
      else [Piece.plain (Text.fill (escapes / 2) '\\')]) = [] := by
    split <;> rfl
  rw [tagPieces, closers_append, hslashes, List.nil_append]
  split
  · exact List.nil_sublist _
  · exact List.Sublist.refl _

/-- The closing tags of a text are among those that stand in brackets. -/
theorem closers_piecesFrom_sublist (t : Text) :
    (closers (piecesFrom skipped position plain t)).Sublist (closings (t.drop skipped)) := by
  induction t generalizing skipped position plain with
  | nil =>
    rw [piecesFrom, closers_plainPiece]
    exact List.nil_sublist _
  | cons c t ih =>
    cases skipped with
    | succ skipped => exact ih
    | zero =>
      rw [piecesFrom, List.drop_zero]
      cases htag : tagAt? (c :: t) with
      | none => exact ih.trans (closings_sublist_cons c t)
      | some found =>
        obtain ⟨escapes, inner⟩ := found
        obtain ⟨hinner, rest, hrest⟩ := tagAt?_eq_some htag
        have hsplit : c :: t = (List.replicate escapes ('\\' : CodePoint) ++
            ('[' : CodePoint) :: (inner ++ [(']' : CodePoint)])) ++ rest := by
          rw [hrest]
          simp
        have hdrop : t.drop (escapes + inner.length + 1) = rest := by
          have hsame : (c :: t).drop (escapes + inner.length + 2) =
              t.drop (escapes + inner.length + 1) := rfl
          rw [← hsame, hsplit]
          exact List.drop_left' (by simp; omega)
        have htags : closings (c :: t) =
            closings (('[' : CodePoint) :: (inner ++ (']' : CodePoint) :: rest)) := by
          rw [hrest]
          exact closings_replicate escapes _
        rw [closers_append, closers_append, closers_plainPiece, List.nil_append, htags, closings,
          bracketed?_eq_some_iff.mpr ⟨hinner, rest, rfl⟩]
        have hafter := @ih [] (escapes + inner.length + 1) (position + 1)
        rw [hdrop] at hafter
        have htag := (closers_tagPieces_sublist position escapes inner).append
          (hafter.trans (closings_sublist_append (inner ++ [(']' : CodePoint)]) rest))
        rw [List.append_assoc, List.singleton_append] at htag
        simp only
        split
        · next hcloses => rwa [if_pos hcloses, List.singleton_append] at htag
        · next hcloses => rwa [if_neg hcloses, List.nil_append] at htag

/-! ## Texts set into a line -/

/-- What can come after any text without taking part in its tags: it starts with nothing
that belongs to a tag, and its first bracket is not a closing one. -/
structure Resumes (t : Text) : Prop where
  start : ∀ c, t.head? = some c → c ≠ '[' ∧ c ≠ '\\'
  bracket : (t.dropWhile isInside).head? ≠ some (']' : CodePoint)

/-- Where a part of a tag that reaches its end may start. -/
theorem suffix_of_tag {part : Text} (hinner : IsInner inner) (hne : part ≠ [])
    (h : part <:+ List.replicate escapes ('\\' : CodePoint) ++
      ('[' : CodePoint) :: (inner ++ [(']' : CodePoint)])) :
    (part.head? = some ('\\' : CodePoint) ∨ part.head? = some ('[' : CodePoint)) ∨
      ∃ ending, (∀ c ∈ ending, isInside c = true) ∧ part = ending ++ [(']' : CodePoint)] := by
  induction escapes with
  | zero =>
    rcases List.suffix_cons_iff.mp h with rfl | h
    · exact .inl (.inr rfl)
    · rcases List.suffix_concat_iff.mp h with rfl | ⟨ending, rfl, hending⟩
      · exact absurd rfl hne
      · exact .inr ⟨ending, fun c hc => hinner.inside c (hending.subset hc), rfl⟩
  | succ escapes ih =>
    rw [List.replicate_succ, List.cons_append] at h
    rcases List.suffix_cons_iff.mp h with rfl | h
    · exact .inl (.inl rfl)
    · exact ih h

/-- A tag that starts in a text ends in it, if the line resumes behind it. -/
theorem Resumes.tag_within (hs : Resumes s) (hinner : IsInner inner)
    (h : m ++ s = List.replicate escapes ('\\' : CodePoint) ++
      ('[' : CodePoint) :: (inner ++ (']' : CodePoint) :: rest)) :
    ∃ within, m = List.replicate escapes ('\\' : CodePoint) ++
      ('[' : CodePoint) :: (inner ++ (']' : CodePoint) :: within) := by
  have hsplit : List.replicate escapes ('\\' : CodePoint) ++
      ('[' : CodePoint) :: (inner ++ (']' : CodePoint) :: rest) =
        (List.replicate escapes ('\\' : CodePoint) ++
          ('[' : CodePoint) :: (inner ++ [(']' : CodePoint)])) ++ rest := by
    simp
  rw [hsplit] at h
  rcases List.append_eq_append_iff.mp h with ⟨part, htag, rfl⟩ | ⟨within, rfl, -⟩
  case inr => exact ⟨within, by simp⟩
  by_cases hpart : part = []
  · subst hpart
    rw [List.append_nil] at htag
    exact ⟨[], by rw [← htag]⟩
  · rcases suffix_of_tag hinner hpart ⟨m, htag.symm⟩ with hhead | ⟨ending, hending, rfl⟩
    · obtain ⟨c, part, rfl⟩ := List.exists_cons_of_ne_nil hpart
      obtain ⟨hopening, hslash⟩ := hs.start c rfl
      rcases hhead with hhead | hhead <;> cases hhead
      · exact absurd rfl hslash
      · exact absurd rfl hopening
    · refine absurd ?_ hs.bracket
      rw [List.append_assoc, List.dropWhile_append_of_pos hending]
      rfl

/-- The pieces of a text that closes nothing come before those of the line that resumes
behind it, and close nothing either. -/
theorem exists_piecesFrom_append (hm : ClosesNothing m) (hs : Resumes s)
    (hskipped : skipped ≤ m.length) :
    ∃ before position' plain', closers before = [] ∧
      piecesFrom skipped position plain (m ++ s) = before ++ piecesFrom 0 position' plain' s := by
  induction m generalizing skipped position plain with
  | nil =>
    rw [List.length_nil, Nat.le_zero] at hskipped
    subst hskipped
    exact ⟨[], position, plain, rfl, rfl⟩
  | cons c m ih =>
    have htail : ClosesNothing m := fun hpart => hm (List.infix_cons hpart)
    cases skipped with
    | succ skipped => exact ih htail (Nat.le_of_succ_le_succ hskipped)
    | zero =>
      rw [List.cons_append, piecesFrom]
      cases htag : tagAt? (c :: (m ++ s)) with
      | none => exact ih htail (Nat.zero_le _)
      | some found =>
        obtain ⟨escapes, inner⟩ := found
        obtain ⟨hinner, rest, hrest⟩ := tagAt?_eq_some htag
        obtain ⟨within, hwithin⟩ := hs.tag_within hinner (List.cons_append.trans hrest)
        have hlength : escapes + inner.length + 1 ≤ m.length := by
          have hlengths := congrArg List.length hwithin
          simp only [List.length_cons, List.length_append, List.length_replicate] at hlengths
          omega
        have hcloses : ¬(Tag.ofText inner).Closes := by
          intro hcloses
          obtain ⟨name, rfl⟩ := List.head?_eq_some_iff.mp (head?_of_closes hcloses)
          exact hm ⟨_, name ++ (']' : CodePoint) :: within, by
            rw [hwithin, List.append_assoc]
            rfl⟩
        have htags : closers (tagPieces position escapes inner) = [] := by
          have hsublist := closers_tagPieces_sublist position escapes inner
          rw [if_neg hcloses] at hsublist
          exact List.sublist_nil.mp hsublist
        obtain ⟨before, position', plain', hbefore, hpieces⟩ :=
          @ih [] (escapes + inner.length + 1) (position + 1) htail hlength
        refine ⟨plainPiece plain ++ tagPieces position escapes inner ++ before, position', plain',
          by simp [htags, hbefore], ?_⟩
        simp only
        rw [hpieces]
        simp only [List.append_assoc]

/-! ## Lines -/

/-- How a text fares behind open styles, wherever it stands and whatever plain text comes
before it: whether it is shown. -/
def Fares (shown : Bool) (opened : List Text) (t : Text) : Prop :=
  ∀ position plain, isShown opened (piecesFrom 0 position plain t) = shown

theorem render_isShown_iff {shown : Bool} (h : Fares shown [] t) :
    (∃ text, render t = .ok text) ↔ shown = true := by
  have hpieces := h 0 []
  rw [isShown] at hpieces
  rw [render, pieces]
  cases hshow : show? [] (piecesFrom 0 0 [] t) <;> rw [hshow] at hpieces <;>
    simp [← hpieces, Except.map]

namespace Fares

variable {shown : Bool}

/-- Plain text changes no styles. -/
protected theorem plain (hm : ∀ c ∈ m, c ≠ '[' ∧ c ≠ '\\') (h : Fares shown opened rest) :
    Fares shown opened (m ++ rest) := by
  intro position plain
  rw [piecesFrom_plain hm]
  exact h _ _

/-- Behind an opening tag there is one more open style. -/
theorem opening (hstyle : IsStyle style)
    (h : Fares shown (Style.normalName style :: opened) rest) :
    Fares shown opened (openingTag style ++ rest) := by
  intro position plain
  have hopens : ¬Tag.Closes ⟨style, none⟩ := hstyle.opens
  rw [openingTag_append, piecesFrom_tag hstyle.inner, hstyle.ofText, isShown_plainPiece,
    isShown_of_not_closes hopens]
  exact h _ _

theorem isShown_closingTag (hstyle : IsStyle style) (opened : List Text) (position : Nat)
    (plain rest : Text) :
    isShown opened (piecesFrom 0 position plain (closingTag style ++ rest)) =
      (decide (Style.normalName style ∈ opened) &&
        isShown (opened.erase (Style.normalName style))
          (piecesFrom 0 (position + style.length + 3) [] rest)) := by
  have hcloses : Tag.Closes ⟨('/' : CodePoint) :: style, none⟩ := rfl
  have hname : Tag.closedName ⟨('/' : CodePoint) :: style, none⟩ ≠ [] := by
    rw [hstyle.closedName]
    exact hstyle.ne_nil
  rw [closingTag, openingTag_append, piecesFrom_tag hstyle.inner_slash, hstyle.ofText_slash,
    isShown_plainPiece, isShown_of_closes hcloses hname, hstyle.closedName]
  rfl

/-- Behind a closing tag there is one open style less. -/
theorem closing (hstyle : IsStyle style) (hopened : Style.normalName style ∈ opened)
    (h : Fares shown (opened.erase (Style.normalName style)) rest) :
    Fares shown opened (closingTag style ++ rest) := by
  intro position plain
  rw [isShown_closingTag hstyle, decide_eq_true hopened, Bool.true_and]
  exact h _ _

/-- A closing tag of a style that is not open keeps the text from being shown. -/
theorem unmatched (hstyle : IsStyle style) (hopened : Style.normalName style ∉ opened)
    (rest : Text) : Fares false opened (closingTag style ++ rest) := by
  intro position plain
  rw [isShown_closingTag hstyle, decide_eq_false hopened, Bool.false_and]

/-- A text that closes nothing can be set into a line that resumes behind it.  It may
leave styles open. -/
theorem inserted (hm : ClosesNothing m) (hs : Resumes s)
    (h : ∀ opened', opened <:+ opened' → Fares shown opened' s) :
    Fares shown opened (m ++ s) := by
  intro position plain
  obtain ⟨before, position', plain', hbefore, hpieces⟩ :=
    @exists_piecesFrom_append m s plain 0 position hm hs (Nat.zero_le _)
  rw [hpieces]
  exact isShown_append hbefore fun opened' hmore => h opened' hmore position' plain'

/-- A text is shown if the styles that stand in its closing tags are open already. -/
theorem of_closings (hnames : ∀ tag ∈ closings t, tag.closedName ≠ [])
    (h : List.Subperm ((closings t).map fun tag => Style.normalName tag.closedName) opened) :
    Fares true opened t := by
  intro position plain
  have hclosers := @closers_piecesFrom_sublist plain 0 position t
  rw [List.drop_zero] at hclosers
  exact isShown_of_subperm (fun tag htag => hnames tag (hclosers.subset htag))
    ((hclosers.map _).subperm.trans h)

/-- A text is shown if its only closing tag closes the style that is open. -/
theorem of_one_closing (hstyle : IsStyle style)
    (h : closings t = [⟨('/' : CodePoint) :: style, none⟩]) :
    Fares true [Style.normalName style] t := by
  refine of_closings (fun tag htag => ?_) ?_
  · rw [h, List.mem_singleton] at htag
    rw [htag, hstyle.closedName]
    exact hstyle.ne_nil
  · rw [h, List.map_singleton, hstyle.closedName]

/-- A text that closes nothing is shown behind any styles. -/
theorem of_closesNothing (ht : ClosesNothing t) : Fares true opened t := by
  have hnone : closings t = [] := by
    rw [← List.append_nil t, closings_append ht (by simp)]
    rfl
  refine of_closings (fun tag htag => ?_) ?_
  · rw [hnone] at htag
    cases htag
  · rw [hnone]
    exact List.nil_subperm

end Fares

/-! ## Ordinary texts -/

/-- What stands in brackets anywhere in a text, escaped or not. -/
def tagTexts : Text → List Text
  | [] => []
  | c :: t => (bracketed? (c :: t)).toList ++ tagTexts t

/-- A text is ordinary if it can be told of every tag what it stands for, and of every
character that an output has it: no tag holds numbers in parentheses or calls anything,
and there are no surrogates. -/
structure IsOrdinary (t : Text) : Prop where
  characters : ∀ c ∈ t, c.isSurrogate = false
  tags : ∀ inner ∈ tagTexts t, ('(' : CodePoint) ∉ inner ∧ inner.head? ≠ some ('@' : CodePoint)

instance (t : Text) : Decidable (IsOrdinary t) :=
  decidable_of_iff ((∀ c ∈ t, c.isSurrogate = false) ∧
      ∀ inner ∈ tagTexts t, ('(' : CodePoint) ∉ inner ∧ inner.head? ≠ some ('@' : CodePoint))
    ⟨fun ⟨h₁, h₂⟩ => ⟨h₁, h₂⟩, fun ⟨h₁, h₂⟩ => ⟨h₁, h₂⟩⟩

theorem tagTexts_of_ne (hc : c ≠ '[') (t : Text) : tagTexts (c :: t) = tagTexts t := by
  rw [tagTexts, bracketed?_of_ne hc]
  rfl

theorem tagTexts_plain (hm : ∀ c ∈ m, c ≠ '[') (rest : Text) :
    tagTexts (m ++ rest) = tagTexts rest := by
  induction m with
  | nil => rfl
  | cons c m ih =>
    rw [List.cons_append, tagTexts_of_ne (hm c List.mem_cons_self),
      ih fun d hd => hm d (List.mem_cons_of_mem c hd)]

theorem tagTexts_openingTag (hinner : IsInner inner) (rest : Text) :
    tagTexts (openingTag inner ++ rest) = inner :: tagTexts rest := by
  have hplain : ∀ c ∈ inner ++ [(']' : CodePoint)], c ≠ '[' := by
    intro c hc
    rcases List.mem_append.mp hc with hc | hc
    · rintro rfl
      exact absurd (hinner.inside _ hc) (by decide)
    · rw [List.mem_singleton.mp hc]
      decide
  have hrest := tagTexts_plain hplain rest
  rw [List.append_assoc, List.singleton_append] at hrest
  rw [openingTag_append, tagTexts, bracketed?_eq_some_iff.mpr ⟨hinner, rest, rfl⟩, hrest]
  rfl

/-- A tag that starts in a text ends in it, if the first bracket behind the text closes
nothing. -/
theorem bracketed?_append (hs : (s.dropWhile isInside).head? ≠ some (']' : CodePoint)) :
    bracketed? (c :: (m ++ s)) = bracketed? (c :: m) := by
  refine Option.ext fun inner => ?_
  rw [bracketed?_eq_some_iff, bracketed?_eq_some_iff]
  refine and_congr_right fun hinner => ⟨?_, ?_⟩
  · rintro ⟨rest, hrest⟩
    rw [List.cons.injEq] at hrest
    obtain ⟨rfl, hafter⟩ := hrest
    rcases List.append_eq_append_iff.mp hafter with ⟨part, rfl, rfl⟩ | ⟨within, rfl, hwithin⟩
    · refine absurd ?_ hs
      rw [List.dropWhile_append_of_pos fun c hc => hinner.inside c (List.mem_append_right m hc)]
      rfl
    · cases within with
      | nil =>
        rw [List.nil_append] at hwithin
        refine absurd ?_ hs
        rw [← hwithin]
        rfl
      | cons d within =>
        obtain ⟨rfl, -⟩ := List.cons.inj hwithin
        exact ⟨within, rfl⟩
  · rintro ⟨rest, hrest⟩
    obtain ⟨rfl, rfl⟩ := List.cons.inj hrest
    exact ⟨rest ++ s, by simp⟩

theorem tagTexts_append (hs : (s.dropWhile isInside).head? ≠ some (']' : CodePoint)) (m : Text) :
    tagTexts (m ++ s) = tagTexts m ++ tagTexts s := by
  induction m with
  | nil => rfl
  | cons c m ih => rw [List.cons_append, tagTexts, bracketed?_append hs, ih, tagTexts,
      List.append_assoc]

namespace IsOrdinary

/-- A text without tags before an ordinary one. -/
protected theorem plain (hm : ∀ c ∈ m, c ≠ '[' ∧ c.isSurrogate = false) (h : IsOrdinary rest) :
    IsOrdinary (m ++ rest) where
  characters := fun c hc => (List.mem_append.mp hc).elim (fun hc => (hm c hc).2) (h.characters c)
  tags := by
    rw [tagTexts_plain fun c hc => (hm c hc).1]
    exact h.tags

/-- An ordinary tag before an ordinary text. -/
theorem tagged (hinner : IsInner inner) (htag : IsOrdinary (openingTag inner))
    (h : IsOrdinary rest) : IsOrdinary (openingTag inner ++ rest) where
  characters := fun c hc => (List.mem_append.mp hc).elim (htag.characters c) (h.characters c)
  tags := by
    have hown := htag.tags
    rw [← List.append_nil (openingTag inner), tagTexts_openingTag hinner] at hown
    rw [tagTexts_openingTag hinner]
    intro other hother
    rcases List.mem_cons.mp hother with rfl | hother
    · exact hown other List.mem_cons_self
    · exact h.tags other hother

/-- An ordinary text can be set into a line of which the next bracket closes nothing. -/
theorem inserted (hm : IsOrdinary m) (hs : (s.dropWhile isInside).head? ≠ some (']' : CodePoint))
    (h : IsOrdinary s) : IsOrdinary (m ++ s) where
  characters := fun c hc => (List.mem_append.mp hc).elim (hm.characters c) (h.characters c)
  tags := by
    rw [tagTexts_append hs]
    exact fun inner hinner => (List.mem_append.mp hinner).elim (hm.tags inner) (h.tags inner)

end IsOrdinary

end Markup

/-- A console follows the rules of markup if it shows just those ordinary texts that the
plain console shows. -/
def Console.FollowsMarkup (console : Console) : Prop :=
  ∀ t, Markup.IsOrdinary t →
    ((∃ shown, console t = .ok shown) ↔ ∃ shown, Markup.render t = .ok shown)

theorem Console.plain_followsMarkup : Console.plain.FollowsMarkup := fun _ _ => Iff.rfl

end ProseCompiler
