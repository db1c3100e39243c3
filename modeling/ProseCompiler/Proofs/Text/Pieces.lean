import ProseCompiler.Text.Basic

/-!
# Splitting and joining

`splitOn` cuts a text at every separator, and `joinWith` puts pieces together
again: the pieces of a text make the text.  No piece holds the separator, and pieces
that do not hold it come back from the text that they were joined to.
-/

namespace ProseCompiler.Text

variable {separator c : CodePoint} {s t piece : Text} {pieces more : List Text}

/-! ## Splitting, one code point at a time -/

@[simp] theorem splitOn_nil : splitOn separator [] = [[]] := rfl

@[simp] theorem splitOn_cons_self :
    splitOn separator (separator :: t) = [] :: splitOn separator t := by
  simp [splitOn]

theorem splitOn_ne_nil (separator : CodePoint) (t : Text) : splitOn separator t ≠ [] := by
  cases t with
  | nil => simp
  | cons c t =>
    simp only [splitOn, List.foldr_cons]
    split
    · simp
    · split <;> simp

/-- Another code point than the separator comes to the first piece. -/
theorem splitOn_cons_of_ne (hc : c ≠ separator) (hsplit : splitOn separator t = piece :: pieces) :
    splitOn separator (c :: t) = (c :: piece) :: pieces := by
  unfold splitOn at hsplit ⊢
  rw [List.foldr_cons, hsplit, if_neg hc]

/-- No piece of a text holds the separator. -/
theorem not_mem_of_mem_splitOn (hpiece : piece ∈ splitOn separator t) : separator ∉ piece := by
  induction t generalizing piece with
  | nil =>
    rw [splitOn_nil, List.mem_singleton] at hpiece
    simp [hpiece]
  | cons c t ih =>
    by_cases hc : c = separator
    · subst hc
      rw [splitOn_cons_self, List.mem_cons] at hpiece
      rcases hpiece with rfl | hpiece
      · exact List.not_mem_nil
      · exact ih hpiece
    · obtain ⟨first, rest, hsplit⟩ := List.exists_cons_of_ne_nil (splitOn_ne_nil separator t)
      rw [splitOn_cons_of_ne hc hsplit, List.mem_cons] at hpiece
      rcases hpiece with rfl | hpiece
      · rw [List.mem_cons, not_or]
        exact ⟨Ne.symm hc, ih (by rw [hsplit]; exact List.mem_cons_self)⟩
      · exact ih (by rw [hsplit]; exact List.mem_cons_of_mem _ hpiece)

/-! ## Splitting what was joined -/

/-- What stands in a piece of a text stands in the text. -/
theorem mem_of_mem_splitOn (hpiece : piece ∈ splitOn separator t) (hc : c ∈ piece) : c ∈ t := by
  induction t generalizing piece with
  | nil =>
    rw [splitOn_nil, List.mem_singleton] at hpiece
    rw [hpiece] at hc
    exact hc
  | cons d t ih =>
    by_cases hd : d = separator
    · rw [hd, splitOn_cons_self, List.mem_cons] at hpiece
      rcases hpiece with rfl | hpiece
      · cases hc
      · exact List.mem_cons_of_mem d (ih hpiece hc)
    · obtain ⟨first, rest, hsplit⟩ := List.exists_cons_of_ne_nil (splitOn_ne_nil separator t)
      rw [splitOn_cons_of_ne hd hsplit, List.mem_cons] at hpiece
      rw [hsplit] at ih
      rcases hpiece with rfl | hpiece
      · rcases List.mem_cons.mp hc with rfl | hc
        · exact List.mem_cons_self
        · exact List.mem_cons_of_mem d (ih List.mem_cons_self hc)
      · exact List.mem_cons_of_mem d (ih (List.mem_cons_of_mem first hpiece) hc)

/-- What stands in a text and is no separator stands in a piece of it. -/
theorem exists_mem_splitOn (hc : c ∈ t) (hne : c ≠ separator) :
    ∃ piece ∈ splitOn separator t, c ∈ piece := by
  induction t with
  | nil => cases hc
  | cons d t ih =>
    by_cases hd : d = separator
    · have hmem : c ∈ t := (List.mem_cons.mp hc).resolve_left fun h => hne (h.trans hd)
      obtain ⟨piece, hpiece, hc⟩ := ih hmem
      rw [hd, splitOn_cons_self]
      exact ⟨piece, List.mem_cons_of_mem _ hpiece, hc⟩
    · obtain ⟨first, rest, hsplit⟩ := List.exists_cons_of_ne_nil (splitOn_ne_nil separator t)
      rw [splitOn_cons_of_ne hd hsplit]
      rcases List.mem_cons.mp hc with rfl | hc
      · exact ⟨c :: first, List.mem_cons_self, List.mem_cons_self⟩
      · obtain ⟨piece, hpiece, hc⟩ := ih hc
        rw [hsplit] at hpiece
        rcases List.mem_cons.mp hpiece with rfl | hpiece
        · exact ⟨d :: piece, List.mem_cons_self, List.mem_cons_of_mem d hc⟩
        · exact ⟨piece, List.mem_cons_of_mem _ hpiece, hc⟩

theorem splitOn_of_not_mem (hpiece : separator ∉ piece) : splitOn separator piece = [piece] := by
  induction piece with
  | nil => rfl
  | cons c piece ih =>
    rw [List.mem_cons, not_or] at hpiece
    exact splitOn_cons_of_ne (Ne.symm hpiece.1) (ih hpiece.2)

theorem splitOn_append_cons_self (hpiece : separator ∉ piece) :
    splitOn separator (piece ++ separator :: t) = piece :: splitOn separator t := by
  induction piece with
  | nil => simp
  | cons c piece ih =>
    rw [List.mem_cons, not_or] at hpiece
    exact splitOn_cons_of_ne (Ne.symm hpiece.1) (ih hpiece.2)

@[simp] theorem joinWith_cons_cons :
    joinWith s (piece :: t :: pieces) = piece ++ s ++ joinWith s (t :: pieces) := rfl

/-- Pieces that do not hold the separator come back. -/
theorem splitOn_joinWith (hpieces : ∀ piece ∈ pieces, separator ∉ piece) (hne : pieces ≠ []) :
    splitOn separator (joinWith [separator] pieces) = pieces := by
  induction pieces with
  | nil => exact absurd rfl hne
  | cons piece pieces ih =>
    have hpiece := hpieces piece List.mem_cons_self
    cases pieces with
    | nil => exact splitOn_of_not_mem hpiece
    | cons next pieces =>
      rw [joinWith_cons_cons, List.append_assoc, List.singleton_append,
        splitOn_append_cons_self hpiece,
        ih (fun other hother => hpieces other (List.mem_cons_of_mem _ hother)) (by simp)]

/-- The pieces of a text, put together again, are the text. -/
theorem joinWith_splitOn (separator : CodePoint) (t : Text) :
    joinWith [separator] (splitOn separator t) = t := by
  induction t with
  | nil => rfl
  | cons c t ih =>
    obtain ⟨piece, pieces, hsplit⟩ := List.exists_cons_of_ne_nil (splitOn_ne_nil separator t)
    rw [hsplit] at ih
    by_cases hc : c = separator
    · subst hc
      rw [splitOn_cons_self, hsplit, joinWith_cons_cons, ih]
      rfl
    · rw [splitOn_cons_of_ne hc hsplit]
      cases pieces with
      | nil => exact congrArg (c :: ·) ih
      | cons next pieces => exact congrArg (c :: ·) ih

/-- More pieces only add to the end of the text. -/
theorem joinWith_isPrefix_append (s : Text) (pieces more : List Text) :
    joinWith s pieces <+: joinWith s (pieces ++ more) := by
  induction pieces with
  | nil => exact List.nil_prefix
  | cons piece pieces ih =>
    cases pieces with
    | nil =>
      cases more with
      | nil => exact List.prefix_refl _
      | cons next more =>
        rw [List.singleton_append, joinWith_cons_cons, List.append_assoc]
        exact List.prefix_append _ _
    | cons next pieces =>
      rw [List.cons_append, List.cons_append, joinWith_cons_cons, joinWith_cons_cons,
        List.prefix_append_right_inj]
      exact ih

end ProseCompiler.Text
