import ProseCompiler.CommandLine.Commands
import ProseCompiler.Proofs.Console.Markup

/-!
# The lines of a compilation

What is printed while a document is compiled: a fixed text with balanced tags, and texts
that are set into it as they are.  A line can be shown if these texts are ordinary and have
no start of a closing tag in them (`CompileLine.isShown_of_ordinary`).  With a closing tag in
its message a failure is not shown (`CompileLine.failure_hides`).
-/

namespace ProseCompiler

/-- A line that is printed while a document is compiled. -/
inductive CompileLine where
  | announcement (document : Location)
  | refusal (message : Text)
  | report (document : Location) (outcome : Outcome)

namespace CompileLine

/-- A line with its tags. -/
def text : CompileLine → Text
  | .announcement document => "Compiling file: " ++ Location.text document
  | .refusal message => "[red]Error: " ++ message ++ "[/red]"
  | .report document outcome => outcome.line document

/-- The texts that are set into a line. -/
def inserts : CompileLine → List Text
  | .announcement document => [Location.text document]
  | .refusal message => [message]
  | .report _ (.succeeded path language) => [path, language]
  | .report document (.failed error _) => [Location.text document, error]

/-- Whether a line can be shown. -/
def IsShown (console : Console) (line : CompileLine) : Prop :=
  ∃ shown, console line.text = .ok shown

section Tags

open Markup (Fares ClosesNothing IsOrdinary openingTag closingTag)

variable {document : Location} {message path language error : Text}

theorem announcement_fares (hdocument : ClosesNothing (Location.text document)) :
    Fares true [] (announcement document).text :=
  .plain (by decide) (.of_closesNothing hdocument)

theorem announcement_isOrdinary (hdocument : IsOrdinary (Location.text document)) :
    IsOrdinary (announcement document).text :=
  .plain (by decide) hdocument

theorem refusal_text (message : Text) :
    (refusal message).text = openingTag "red" ++ ("Error: " ++ (message ++ closingTag "red")) := by
  have hstart : ("[red]Error: " : Text) = openingTag "red" ++ "Error: " := by decide
  have hend : ("[/red]" : Text) = closingTag "red" := by decide
  show ("[red]Error: " : Text) ++ message ++ "[/red]" = _
  rw [hstart, hend]
  simp only [List.append_assoc]

/-- A backslash at the end of the message keeps the last tag from closing, and the line is
shown all the same. -/
theorem refusal_fares (hmessage : ClosesNothing message) :
    Fares true [] (refusal message).text := by
  have hclosings : Markup.closings (message ++ closingTag "red") = [⟨"/red", none⟩] := by
    rw [Markup.closings_append hmessage (by decide)]
    decide
  rw [refusal_text]
  exact .opening (by decide) (.plain (by decide) (.of_one_closing (by decide) hclosings))

theorem refusal_isOrdinary (hmessage : IsOrdinary message) :
    IsOrdinary (refusal message).text := by
  rw [refusal_text]
  exact .tagged (by decide) (by decide)
    (.plain (by decide) (.inserted hmessage (by decide) (by decide)))

theorem failure_text (document : Location) (error : Text) (code : Option Text) :
    (report document (.failed error code)).text =
      openingTag "red" ++ ("❌ Error processing " ++ (Location.text document ++
        (":" ++ (closingTag "red" ++ (" " ++ error))))) := by
  have hstart : ("[red]❌ Error processing " : Text) =
      openingTag "red" ++ "❌ Error processing " := by decide +kernel
  have hmiddle : (":[/red] " : Text) = ":" ++ (closingTag "red" ++ " ") := by decide
  show ("[red]❌ Error processing " : Text) ++ Location.text document ++ ":[/red] " ++ error = _
  rw [hstart, hmiddle]
  simp only [List.append_assoc]

/-- Behind the document, the line of a failure goes on with plain text and a tag. -/
theorem failure_resumes (error : Text) :
    Markup.Resumes (":" ++ (closingTag "red" ++ (" " ++ error))) :=
  ⟨by rintro c ⟨⟩; decide, by rintro ⟨⟩⟩

theorem failure_fares {code : Option Text} (hdocument : ClosesNothing (Location.text document))
    (herror : ClosesNothing error) :
    Fares true [] (report document (.failed error code)).text := by
  rw [failure_text]
  refine .opening (by decide) (.plain (by decide)
    (.inserted hdocument (failure_resumes error) fun opened' hmore => .plain (by decide) ?_))
  exact .closing (by decide) (hmore.subset List.mem_cons_self)
    (.plain (by decide) (.of_closesNothing herror))

theorem failure_isOrdinary {code : Option Text} (hdocument : IsOrdinary (Location.text document))
    (herror : IsOrdinary error) : IsOrdinary (report document (.failed error code)).text := by
  rw [failure_text]
  refine .tagged (by decide) (by decide) (.plain (by decide)
    (.inserted hdocument (failure_resumes error).bracket (.plain (by decide) ?_)))
  exact .tagged (by decide) (by decide) (.plain (by decide) herror)

/-- A failure is not shown if a closing tag comes first in its message, behind plain text. -/
theorem failure_hides {before after style : Text} {code : Option Text}
    (hdocument : ∀ c ∈ Location.text document, c ≠ '[' ∧ c ≠ '\\')
    (hbefore : ∀ c ∈ before, c ≠ '[' ∧ c ≠ '\\') (hstyle : Markup.IsStyle style) :
    Fares false []
      (report document (.failed (before ++ (closingTag style ++ after)) code)).text := by
  rw [failure_text]
  refine .opening (by decide) (.plain (by decide) (.plain hdocument (.plain (by decide)
    (.closing (by decide) List.mem_cons_self (.plain (by decide) (.plain hbefore ?_))))))
  rw [List.erase_cons_head]
  exact .unmatched hstyle List.not_mem_nil after

theorem success_text (document : Location) (path language : Text) :
    (report document (.succeeded path language)).text =
      openingTag "green" ++ ("✅ Code generated successfully:" ++ (closingTag "green" ++ (" " ++
        (path ++ (" " ++ (openingTag "dim" ++ ("(" ++ (language ++
          (")" ++ closingTag "dim"))))))))) := by
  have hstart : ("[green]✅ Code generated successfully:[/green] " : Text) =
      openingTag "green" ++ ("✅ Code generated successfully:" ++ (closingTag "green" ++ " ")) := by
    decide +kernel
  have hmiddle : (" [dim](" : Text) = " " ++ (openingTag "dim" ++ "(") := by decide
  have hend : (")[/dim]" : Text) = ")" ++ closingTag "dim" := by decide
  show ("[green]✅ Code generated successfully:[/green] " : Text) ++ path ++ " [dim](" ++
    language ++ ")[/dim]" = _
  rw [hstart, hmiddle, hend]
  simp only [List.append_assoc]

/-- Behind the path, the line of a success goes on with plain text and a tag. -/
theorem success_resumes (language : Text) :
    Markup.Resumes (" " ++ (openingTag "dim" ++ ("(" ++ (language ++
      (")" ++ closingTag "dim"))))) :=
  ⟨by rintro c ⟨⟩; decide, by rintro ⟨⟩⟩

/-- Behind the language as well. -/
theorem success_resumes_again : Markup.Resumes (")" ++ closingTag "dim") :=
  ⟨by rintro c ⟨⟩; decide, by rintro ⟨⟩⟩

theorem success_fares (hpath : ClosesNothing path) (hlanguage : ClosesNothing language) :
    Fares true [] (report document (.succeeded path language)).text := by
  rw [success_text]
  refine .opening (by decide) (.plain (by decide) (.closing (by decide) List.mem_cons_self
    (.plain (by decide)
      (.inserted hpath (success_resumes language) fun opened' _ => .plain (by decide) ?_))))
  refine .opening (by decide) (.plain (by decide)
    (.inserted hlanguage success_resumes_again fun opened'' hmore => .plain (by decide) ?_))
  rw [← List.append_nil (closingTag "dim")]
  exact .closing (by decide) (hmore.subset List.mem_cons_self) (.of_closesNothing (by decide))

theorem success_isOrdinary (hpath : IsOrdinary path) (hlanguage : IsOrdinary language) :
    IsOrdinary (report document (.succeeded path language)).text := by
  rw [success_text]
  refine .tagged (by decide) (by decide) (.plain (by decide) (.tagged (by decide) (by decide)
    (.plain (by decide) (.inserted hpath (success_resumes language).bracket
      (.plain (by decide) ?_)))))
  exact .tagged (by decide) (by decide)
    (.plain (by decide) (.inserted hlanguage success_resumes_again.bracket (by decide)))

end Tags

/-- A line is shown in the plain console if no text in it has the start of a closing tag. -/
theorem fares_of_closesNothing {line : CompileLine}
    (h : ∀ t ∈ line.inserts, Markup.ClosesNothing t) : Markup.Fares true [] line.text := by
  match line, h with
  | .announcement document, h => exact announcement_fares (h _ (by simp [inserts]))
  | .refusal message, h => exact refusal_fares (h _ (by simp [inserts]))
  | .report document (.succeeded path language), h =>
    exact success_fares (h _ (by simp [inserts])) (h _ (by simp [inserts]))
  | .report document (.failed error code), h =>
    exact failure_fares (h _ (by simp [inserts])) (h _ (by simp [inserts]))

/-- A line is ordinary if the texts in it are. -/
theorem isOrdinary_text {line : CompileLine} (h : ∀ t ∈ line.inserts, Markup.IsOrdinary t) :
    Markup.IsOrdinary line.text := by
  match line, h with
  | .announcement document, h => exact announcement_isOrdinary (h _ (by simp [inserts]))
  | .refusal message, h => exact refusal_isOrdinary (h _ (by simp [inserts]))
  | .report document (.succeeded path language), h =>
    exact success_isOrdinary (h _ (by simp [inserts])) (h _ (by simp [inserts]))
  | .report document (.failed error code), h =>
    exact failure_isOrdinary (h _ (by simp [inserts])) (h _ (by simp [inserts]))

/-- A console that follows the rules of markup shows a line, if the texts in it are ordinary
and none has the start of a closing tag. -/
theorem isShown_of_ordinary {console : Console} {line : CompileLine}
    (hconsole : console.FollowsMarkup)
    (h : ∀ t ∈ line.inserts, Markup.IsOrdinary t ∧ Markup.ClosesNothing t) :
    line.IsShown console := by
  refine (hconsole _ (isOrdinary_text fun t ht => (h t ht).1)).mpr ?_
  exact (Markup.render_isShown_iff (fares_of_closesNothing fun t ht => (h t ht).2)).mpr rfl

end CompileLine

end ProseCompiler
