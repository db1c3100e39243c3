import ProseCompiler.Service.Answer

/-!
# Answers that hold code

Code comes out of an answer in one way only: the answer is a response with a
status of success, its body is JSON, the JSON has a known shape, and the text in
it is not blank.
-/

namespace ProseCompiler

/-- The code in a text is the text without the blanks around it. -/
theorem Shape.codeIn_eq_ok_iff {language : Option Text} {t code : Text} :
    codeIn language t = .ok code ↔ Text.trim t ≠ [] ∧ code = Text.trim t := by
  rw [codeIn]
  by_cases hblank : Text.trim t = []
  · simp [hblank]
  · simp [hblank, eq_comm]

namespace Answer

variable {request : Request} {answer : Answer} {document language code : Text} {value : Json}

/-- An answer with a JSON value is a response of success with that value as its
body. -/
theorem response_of_value (h : answer.value request = .ok value) :
    ∃ status headers body text, answer = .response status headers body text ∧
      isSuccess status = true ∧ jsonBody body = .ok value := by
  cases answer with
  | response status headers body text =>
    refine ⟨status, headers, body, text, rfl, ?_⟩
    rw [Answer.value] at h
    split at h
    · cases h
    · split at h
      · cases h
      · split at h
        · next hsuccess => exact ⟨hsuccess, h⟩
        · cases h
  | _ => cases h

/-- Code is the trimmed text of the shape that the answer has. -/
theorem shape_of_code (h : (answer.code request document language).2 = .ok code) :
    ∃ value shape t, answer.value request = .ok value ∧
      Shape.ofAnswer value = .ok (shape, t) ∧ Text.trim t ≠ [] ∧ code = Text.trim t := by
  rw [Answer.code] at h
  cases hvalue : answer.value request with
  | error problem =>
    rw [hvalue] at h
    cases h
  | ok value =>
    rw [hvalue] at h
    cases hshape : Shape.ofAnswer value with
    | error error => simp [hshape] at h
    | ok found =>
      obtain ⟨shape, t⟩ := found
      cases hcode : Shape.codeIn (some language) t with
      | error error => simp [hshape, hcode] at h
      | ok other =>
        simp only [hshape, hcode, Except.ok.injEq] at h
        rw [h] at hcode
        exact ⟨value, shape, t, rfl, hshape, Shape.codeIn_eq_ok_iff.mp hcode⟩

end Answer

end ProseCompiler
