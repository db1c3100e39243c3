import ProseCompiler.Proofs.Text.Pieces
import ProseCompiler.Text.Lines

/-!
# Line ends

A text can have line feeds, carriage returns, or both at the end of its lines.  Reading the
three as one gives the text with line feeds back (`unifyNewlines_withLineEnds`).

With both, the lines are the same but for a carriage return at the end of each line that is not
the last one: `lines_withLineEnds_both`.
-/

namespace ProseCompiler

/-- What stands at the end of a line. -/
inductive LineEnd where
  | lineFeed
  | both
  | carriageReturn
deriving DecidableEq, Repr

/-- The code points of a line end. -/
def LineEnd.mark : LineEnd → Text
  | .lineFeed => ['\n']
  | .both => ['\r', '\n']
  | .carriageReturn => ['\r']

namespace Text

/-- The text with another line end in the place of every line feed. -/
def withLineEnds (e : LineEnd) (t : Text) : Text :=
  t.flatMap fun c => if c = newline then e.mark else [c]

/-! ## Reading line ends as one -/

section Unify

variable {afterReturn : Bool} {c : CodePoint} {t : Text}

theorem unifyNewlinesFrom_return :
    unifyNewlinesFrom afterReturn ('\r' :: t) = newline :: unifyNewlinesFrom true t := by
  rw [unifyNewlinesFrom, if_pos rfl]

theorem unifyNewlinesFrom_true_newline :
    unifyNewlinesFrom true (newline :: t) = unifyNewlinesFrom false t := by
  rw [unifyNewlinesFrom, if_neg (by decide), if_pos ⟨rfl, rfl⟩]

theorem unifyNewlinesFrom_false_newline :
    unifyNewlinesFrom false (newline :: t) = newline :: unifyNewlinesFrom false t := by
  rw [unifyNewlinesFrom, if_neg (by decide), if_neg (by simp)]

theorem unifyNewlinesFrom_of_ne (hreturn : c ≠ '\r') (hnewline : c ≠ newline) :
    unifyNewlinesFrom afterReturn (c :: t) = c :: unifyNewlinesFrom false t := by
  rw [unifyNewlinesFrom, if_neg hreturn, if_neg (fun h => hnewline h.1)]

/-- Whatever stands at the end of its lines, a text without carriage returns is read as
it is.  Behind a carriage return a line feed would be lost; but none stands there if
carriage returns are all that ends a line. -/
theorem unifyNewlinesFrom_withLineEnds {e : LineEnd}
    (hstate : afterReturn = true → e = .carriageReturn) (hplain : ('\r' : CodePoint) ∉ t) :
    unifyNewlinesFrom afterReturn (t.withLineEnds e) = t := by
  induction t generalizing afterReturn with
  | nil => rfl
  | cons c t ih =>
    rw [List.mem_cons, not_or] at hplain
    have hfalse : false = true → e = .carriageReturn := fun h => absurd h Bool.false_ne_true
    rw [withLineEnds, List.flatMap_cons, ← withLineEnds]
    by_cases hnewline : c = newline
    · rw [if_pos hnewline, hnewline]
      cases e with
      | lineFeed =>
        have hbehind : afterReturn = false := by
          cases afterReturn with
          | false => rfl
          | true => cases hstate rfl
        rw [hbehind]
        exact unifyNewlinesFrom_false_newline.trans (congrArg _ (ih hfalse hplain.2))
      | both =>
        refine unifyNewlinesFrom_return.trans (congrArg _ ?_)
        exact unifyNewlinesFrom_true_newline.trans (ih hfalse hplain.2)
      | carriageReturn =>
        exact unifyNewlinesFrom_return.trans (congrArg _ (ih (fun _ => rfl) hplain.2))
    · rw [if_neg hnewline, List.singleton_append,
        unifyNewlinesFrom_of_ne (Ne.symm hplain.1) hnewline, ih hfalse hplain.2]

theorem unifyNewlines_withLineEnds (e : LineEnd) (hplain : ('\r' : CodePoint) ∉ t) :
    unifyNewlines (t.withLineEnds e) = t :=
  unifyNewlinesFrom_withLineEnds (fun h => absurd h Bool.false_ne_true) hplain

end Unify

/-! ## Lines with carriage returns -/

/-- The lines with a carriage return at the end of each but the last one. -/
def withReturns : List Text → List Text
  | [] => []
  | line :: more =>
    (if more = [] then line else line ++ [('\r' : CodePoint)]) :: withReturns more

section Returns

variable {ls more : List Text} {line next : Text}

theorem withReturns_cons_cons :
    withReturns (line :: next :: more) =
      (line ++ [('\r' : CodePoint)]) :: withReturns (next :: more) := rfl

theorem withReturns_ne_nil (h : ls ≠ []) : withReturns ls ≠ [] := by
  cases ls with
  | nil => exact absurd rfl h
  | cons line more => exact List.cons_ne_nil _ _

theorem newline_notMem_withReturns (h : ∀ line ∈ ls, newline ∉ line) :
    ∀ line ∈ withReturns ls, newline ∉ line := by
  induction ls with
  | nil => nofun
  | cons line more ih =>
    obtain ⟨hline, hmore⟩ := List.forall_mem_cons.mp h
    refine List.forall_mem_cons.mpr ⟨?_, ih hmore⟩
    split
    · exact hline
    · rw [List.mem_append, not_or]
      exact ⟨hline, by decide⟩

theorem withLineEnds_of_notMem (e : LineEnd) (h : newline ∉ line) :
    line.withLineEnds e = line := by
  induction line with
  | nil => rfl
  | cons c line ih =>
    rw [List.mem_cons, not_or] at h
    rw [withLineEnds, List.flatMap_cons, ← withLineEnds, ih h.2, if_neg (Ne.symm h.1)]
    rfl

/-- A text that is made of lines has both line ends if the lines have carriage returns. -/
theorem withLineEnds_unlines (h : ∀ line ∈ ls, newline ∉ line) :
    (unlines ls).withLineEnds .both = unlines (withReturns ls) := by
  induction ls with
  | nil => rfl
  | cons line more ih =>
    obtain ⟨hline, hmore⟩ := List.forall_mem_cons.mp h
    cases more with
    | nil => exact withLineEnds_of_notMem .both hline
    | cons next more =>
      have hends : (unlines (line :: next :: more)).withLineEnds .both =
          line.withLineEnds .both ++ LineEnd.both.mark ++
            (unlines (next :: more)).withLineEnds .both := by
        simp [unlines, withLineEnds, newline]
      obtain ⟨first, rest, hrest⟩ :=
        List.exists_cons_of_ne_nil (withReturns_ne_nil (List.cons_ne_nil next more))
      rw [hends, withLineEnds_of_notMem .both hline, ih hmore, withReturns_cons_cons, hrest,
        unlines, unlines, joinWith_cons_cons]
      simp [LineEnd.mark, newline]

/-- The lines of a text with both line ends are those of the text, with carriage returns. -/
theorem lines_withLineEnds_both (t : Text) :
    lines (t.withLineEnds .both) = withReturns (lines t) := by
  have hplain : ∀ line ∈ lines t, newline ∉ line := fun line => not_mem_of_mem_splitOn
  have hunlines : unlines (lines t) = t := joinWith_splitOn newline t
  calc lines (t.withLineEnds .both)
      = lines (unlines (withReturns (lines t))) := by
        rw [← withLineEnds_unlines hplain, hunlines]
    _ = withReturns (lines t) :=
        splitOn_joinWith (newline_notMem_withReturns hplain)
          (withReturns_ne_nil (splitOn_ne_nil newline t))

end Returns

end Text

end ProseCompiler
