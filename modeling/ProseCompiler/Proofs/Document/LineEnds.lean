import ProseCompiler.Document.Header
import ProseCompiler.Proofs.Text.Case
import ProseCompiler.Proofs.Text.LineEnds

/-!
# Documents with carriage returns

A carriage return at the end of a line is trimmed off with the other blanks, so a line is read
as the same kind of line, with the same key and value (`classify_concat_return`).  The header
of a text with both line ends is therefore that of the text with line feeds, and ends at the
same line; what stands behind it keeps its carriage returns.
-/

namespace ProseCompiler.Document

variable {settings : Settings} {ls body : List Text}

theorem classify_concat_return (line : Text) :
    classify (line ++ [('\r' : CodePoint)]) = classify line := by
  rw [classify, classify, Text.trim_concat_blank (show CodePoint.isBlank '\r' = true by decide)]

/-- With carriage returns the same lines belong to the header, and set the same. -/
theorem headerFrom_withReturns (settings : Settings) (ls : List Text) :
    headerFrom settings (Text.withReturns ls) =
      ((headerFrom settings ls).1, (headerFrom settings ls).2.map Text.withReturns) := by
  induction ls generalizing settings with
  | nil => rfl
  | cons line more ih =>
    have hline : classify (if more = [] then line else line ++ [('\r' : CodePoint)]) =
        classify line := by
      split
      · rfl
      · exact classify_concat_return line
    rw [Text.withReturns, headerFrom, headerFrom, hline]
    cases classify line with
    | setting key value => exact ih (settings.put key value)
    | malformed => exact ih settings
    | blank => cases settings <;> rfl
    | prose => rfl

/-- What stands behind the header are the last lines. -/
theorem suffix_of_headerFrom (h : (headerFrom settings ls).2 = some body) : body <:+ ls := by
  induction ls generalizing settings with
  | nil => cases h
  | cons line more ih =>
    have hmore : more <:+ line :: more := List.suffix_cons line more
    rw [headerFrom] at h
    cases hline : classify line with
    | setting key value =>
      rw [hline] at h
      exact (ih h).trans hmore
    | malformed =>
      rw [hline] at h
      exact (ih h).trans hmore
    | blank =>
      rw [hline] at h
      cases settings with
      | nil => cases h
      | cons setting settings =>
        cases h
        exact hmore
    | prose =>
      rw [hline] at h
      cases h

/-- Carriage returns in front of all line feeds of a text change nothing of its settings, and
stand in front of the line feeds of its instructions, which are otherwise the same. -/
theorem returns_stay_with_instructions (t : Text) :
    (parse (t.withLineEnds .both)).settings = (parse t).settings ∧
      (parse (t.withLineEnds .both)).instructions =
        (parse t).instructions.withLineEnds .both := by
  have hread := headerFrom_withReturns [] (Text.lines t)
  rw [← Text.lines_withLineEnds_both] at hread
  rcases hheader : headerFrom [] (Text.lines t) with ⟨settings, _ | body⟩ <;>
    rw [hheader] at hread <;> rw [parse, parse, hheader, hread]
  · exact ⟨rfl, rfl⟩
  · have hbody : body <:+ Text.lines t := suffix_of_headerFrom (congrArg Prod.snd hheader)
    have hplain : ∀ line ∈ body, Text.newline ∉ line := fun line hline =>
      Text.not_mem_of_mem_splitOn (hbody.mem hline)
    exact ⟨rfl, (Text.withLineEnds_unlines hplain).symm⟩

end ProseCompiler.Document
