import ProseCompiler.Proofs.Pipeline.Course

/-!
# Every run has an outcome

Whatever is wrong with a document, a configuration, a file tree or an answer, a
run ends with an outcome, and a failed one has a code of a compilation.  Only what
a transport raises can make a difference, and only in three ways (`Derails`): a
request to stop, an error of the compiler with another code, and an exception that
has no text.

A problem `CanBeReported` if a failed outcome with one of the codes of a
compilation is made of it.  Every stage that fails does so with such a problem:
`load_error_canBeReported`, `code_error_canBeReported` and
`write_error_canBeReported`.  The rest is what `start` and `finish` do with it.
The entries of the journal may write to the tree as they like.
-/

namespace ProseCompiler

/-- The codes of the failures of a compilation. -/
def Outcome.failureCodes : List Text :=
  ["READ_ERROR", "WRITE_ERROR", "SERVICE_ERROR", "RESPONSE_SHAPE_ERROR", "EMPTY_ARTIFACT",
    "INTERNAL_ERROR"]

/-- An outcome whose parts fit together: an output path and a language, or an
error and one of the codes. -/
def Outcome.IsComplete (outcome : Outcome) : Prop :=
  (∃ path language, ofParts true (some path) (some language) none none = .ok outcome) ∨
    ∃ error, ∃ code ∈ failureCodes, ofParts false none none (some error) (some code) = .ok outcome

theorem Outcome.succeeded_isComplete (path language : Text) :
    (Outcome.succeeded path language).IsComplete :=
  .inl ⟨path, language, rfl⟩

theorem Outcome.failed_isComplete (error : Text) {code : Text} (hcode : code ∈ failureCodes) :
    (Outcome.failed error (some code)).IsComplete :=
  .inr ⟨error, code, hcode, rfl⟩

/-- Faults, and errors with a code of a compilation. -/
def Problem.CanBeReported : Problem → Prop
  | .reported error => error.code ∈ Outcome.failureCodes
  | .unexpected _ => True
  | .interrupted _ => False

/-- An error can be reported if its code is one of those of a compilation. -/
theorem Problem.CanBeReported.of_code {error : CompilerError} (code : Text)
    (hcode : code ∈ Outcome.failureCodes) (h : error.code = code) :
    (Problem.reported error).CanBeReported := by
  rw [Problem.CanBeReported, h]
  exact hcode

/-! ## Answers -/

namespace Answer

variable {request : Request} {answer : Answer} {problem : Problem} {document language : Text}

/-- No answer but a request to stop is one. -/
def IsInterruption : Answer → Prop
  | .interrupted _ => True
  | _ => False

/-- An answer of which an outcome can be made: no request to stop, and no exception without a
text. -/
def IsConclusive : Answer → Prop
  | .untold .. | .interrupted _ => False
  | _ => True

/-- What a transport raises that keeps a run from an outcome with a code of a compilation, and
the result of the run then. -/
inductive Derails : Answer → Except Pipeline.Halt Outcome → Prop where
  | interrupted {message : Text} : Derails (.interrupted message) (.error (.asked message))
  | reported {error : CompilerError} (hcode : error.code ∉ Outcome.failureCodes) :
      Derails (.reported error) (.ok (.ofError error))
  | untold {kind : Text} {fault : Fault} :
      Derails (.untold kind fault) (.error (.escaped fault))

/-- An answer from which a run comes to an outcome with a code of a compilation. -/
def IsRegular : Answer → Prop
  | .response .. | .unreachable .. | .raised _ => True
  | .reported error => error.code ∈ Outcome.failureCodes
  | .untold .. | .interrupted _ => False

/-- An answer is regular, or it derails the run. -/
theorem isRegular_or_derails (answer : Answer) :
    answer.IsRegular ∨ ∃ result, answer.Derails result := by
  cases answer with
  | response | unreachable | raised => exact .inl trivial
  | reported error =>
    by_cases hcode : error.code ∈ Outcome.failureCodes
    · exact .inl hcode
    · exact .inr ⟨_, .reported hcode⟩
  | untold => exact .inr ⟨_, .untold⟩
  | interrupted => exact .inr ⟨_, .interrupted⟩

theorem silence?_of_isRegular (h : answer.IsRegular) : answer.silence? = none := by
  cases answer with
  | untold => exact h.elim
  | _ => rfl

theorem service_error_canBeReported (message : Text) (status : Option Int) (body : Text) :
    (Problem.reported (.service message status body)).CanBeReported :=
  .of_code "SERVICE_ERROR" (by decide) rfl

theorem addressProblem_canBeReported (h : addressProblem? request = some problem) :
    problem.CanBeReported := by
  rw [addressProblem?] at h
  split at h
  · cases h
    trivial
  · cases h

theorem redirectProblem_canBeReported {status : Int} {headers : List (Text × Text)}
    (h : redirectProblem? status headers = some problem) : problem.CanBeReported := by
  rw [redirectProblem?] at h
  split at h
  · split at h
    · cases h
    · split at h
      · cases h
        exact service_error_canBeReported ..
      · split at h
        · cases h
          trivial
        · cases h
  · cases h

theorem statusProblem_canBeReported (status : Int) (text : Except Fault Text) :
    (statusProblem status text).CanBeReported := by
  cases text with
  | error fault => trivial
  | ok t => exact service_error_canBeReported ..

theorem jsonBody_error_canBeReported {octets : Bytes} (h : jsonBody octets = .error problem) :
    problem.CanBeReported := by
  have hinvalid : invalidJson.CanBeReported := .of_code "RESPONSE_SHAPE_ERROR" (by decide) rfl
  rw [jsonBody] at h
  split at h
  · cases h
    exact hinvalid
  · split at h
    · cases h
    · cases h
      exact hinvalid
    · cases h
      trivial
    · cases h
      trivial

theorem value_error_canBeReported (hanswer : answer.IsRegular)
    (h : answer.value request = .error problem) : problem.CanBeReported := by
  cases answer with
  | interrupted | untold => exact hanswer.elim
  | raised fault =>
    cases h
    trivial
  | reported error =>
    cases h
    exact hanswer
  | unreachable kind message =>
    cases h
    exact service_error_canBeReported ..
  | response status headers body text =>
    rw [value] at h
    split at h
    · next haddress =>
      cases h
      exact addressProblem_canBeReported haddress
    · split at h
      · next hredirect =>
        cases h
        exact redirectProblem_canBeReported hredirect
      · split at h
        · exact jsonBody_error_canBeReported h
        · cases h
          exact statusProblem_canBeReported ..

theorem shape_error_canBeReported {value : Json} {error : CompilerError}
    (h : Shape.ofAnswer value = .error error) : (Problem.reported error).CanBeReported := by
  refine .of_code "RESPONSE_SHAPE_ERROR" (by decide) ?_
  unfold Shape.ofAnswer at h
  split at h
  · split at h <;> cases h
    rfl
  · cases h
    rfl

theorem codeIn_error_canBeReported {t : Text} {error : CompilerError}
    (h : Shape.codeIn (some language) t = .error error) :
    (Problem.reported error).CanBeReported := by
  rw [Shape.codeIn] at h
  split at h
  · cases h
    exact .of_code "EMPTY_ARTIFACT" (by decide) rfl
  · cases h

/-- What keeps an answer from holding code, stage by stage. -/
theorem code_error_cases (h : (answer.code request document language).2 = .error problem) :
    answer.value request = .error problem ∨
      ∃ error, problem = .reported error ∧
        ((∃ value, Shape.ofAnswer value = .error error) ∨
          ∃ t, Shape.codeIn (some language) t = .error error) := by
  rw [Answer.code] at h
  split at h
  · next hvalue =>
    cases h
    exact .inl hvalue
  · split at h
    · next hshape =>
      cases h
      exact .inr ⟨_, rfl, .inl ⟨_, hshape⟩⟩
    · split at h
      · next hcode =>
        cases h
        exact .inr ⟨_, rfl, .inr ⟨_, hcode⟩⟩
      · cases h

/-- An answer without code in it, whatever it is instead, can be reported. -/
theorem code_error_canBeReported (hanswer : answer.IsRegular)
    (h : (answer.code request document language).2 = .error problem) : problem.CanBeReported := by
  rcases code_error_cases h with hvalue | ⟨error, rfl, ⟨value, hshape⟩ | ⟨t, hcode⟩⟩
  · exact value_error_canBeReported hanswer hvalue
  · exact shape_error_canBeReported hshape
  · exact codeIn_error_canBeReported hcode

end Answer

namespace Pipeline

variable {config : Config} {observer : Observer} {tree tree' : Tree} {document : Path}
  {problem : Problem} {output : Location} {code : Text}

/-! ## Files -/

theorem read_error_canBeReported (h : read tree document = .error problem) :
    problem.CanBeReported := by
  rw [read] at h
  split at h
  · cases h
  · split at h <;> cases h
    · exact .of_code "READ_ERROR" (by decide) rfl
    · exact .of_code "READ_ERROR" (by decide) rfl
    · trivial

/-- A document that cannot be loaded, for whatever reason, can be reported. -/
theorem load_error_canBeReported (h : load tree config document = .error problem) :
    problem.CanBeReported := by
  rw [load] at h
  split at h
  · next hread =>
    cases h
    exact read_error_canBeReported hread
  · simp only at h
    split at h
    · cases h
      trivial
    · cases h

theorem writeProblem_canBeReported (output : Location) (fault : Fault) :
    (writeProblem output fault).CanBeReported := by
  cases fault with
  | system error path => exact .of_code "WRITE_ERROR" (by decide) rfl
  | _ => trivial

/-- Code that cannot be written, for whatever reason, can be reported. -/
theorem write_error_canBeReported (h : write tree output code = (tree', .error problem)) :
    problem.CanBeReported := by
  rcases write_cases tree output code with
    ⟨_, _, -, heq⟩ | ⟨_, -, ⟨_, _, -, heq⟩ | ⟨_, -, heq⟩⟩
  · rw [heq] at h
    cases h
    exact writeProblem_canBeReported ..
  · rw [heq] at h
    cases h
    exact writeProblem_canBeReported ..
  · rw [heq] at h
    cases h

/-! ## The run -/

/-- A part that fails with a problem that can be reported has a complete
outcome. -/
theorem fail_result (journal : Journal) (hproblem : problem.CanBeReported) :
    ∃ outcome, (fail observer tree journal document problem).result = .ok outcome ∧
      outcome.IsComplete := by
  cases problem with
  | interrupted message => exact hproblem.elim
  | reported error => exact ⟨_, rfl, Outcome.failed_isComplete _ hproblem⟩
  | unexpected fault =>
    exact ⟨_, rfl, Outcome.failed_isComplete _ (by decide)⟩

/-- The work before the request ends with a complete outcome, or with a request
for a document that was read as text. -/
theorem start_result (config : Config) (observer : Observer) (tree : Tree) (document : Path) :
    (∃ outcome, (start config observer tree document).result = .ok (.done outcome) ∧
        outcome.IsComplete) ∨
      ∃ pending text, (start config observer tree document).result = .ok (.waiting pending) ∧
        (observer (processing document) tree).readText document.text = .ok text := by
  rw [start]
  cases hload : load (observer (processing document) tree) config document with
  | error problem =>
    obtain ⟨outcome, hresult, hcomplete⟩ := @fail_result observer
      (observer (processing document) tree) document problem [processing document]
      (load_error_canBeReported hload)
    exact .inl ⟨outcome, by simp [hresult, Except.map], hcomplete⟩
  | ok loaded =>
    obtain ⟨parsed, target⟩ := loaded
    obtain ⟨text, htext, -, -⟩ := resolved_of_load hload
    cases hrequest : Request.make config parsed.instructions target.language with
    | error fault =>
      refine .inl ⟨.ofFault fault, by simp [hrequest, fail, failure, Except.map], ?_⟩
      exact Outcome.failed_isComplete _ (by decide)
    | ok request =>
      exact .inr ⟨⟨document, target, request⟩, text, by simp [hrequest], htext⟩

/-- The work after a regular answer ends with a complete outcome. -/
theorem finish_result (observer : Observer) (milliseconds : Nat) (tree : Tree) (pending : Pending)
    {answer : Answer} (hanswer : answer.IsRegular) :
    ∃ outcome, (finish observer milliseconds tree pending answer).result = .ok outcome ∧
      outcome.IsComplete := by
  rw [finish]
  rcases hcode : answer.code pending.request pending.document.text pending.target.language with
    ⟨journal, problem | code⟩
  · simp only [disappoint, Answer.silence?_of_isRegular hanswer]
    exact fail_result journal (Answer.code_error_canBeReported hanswer (by rw [hcode]))
  · simp only
    rcases hwrite : write (observed observer tree journal) pending.target.output code with
      ⟨written, problem | _⟩
    · exact fail_result journal (write_error_canBeReported hwrite)
    · exact ⟨_, rfl, Outcome.succeeded_isComplete ..⟩

/-- The work after an answer that derails it ends with what that comes to. -/
theorem finish_of_derails (observer : Observer) (milliseconds : Nat) (tree : Tree)
    (pending : Pending) {answer : Answer} {result : Except Halt Outcome}
    (h : answer.Derails result) :
    (finish observer milliseconds tree pending answer).result = result := by
  cases h <;> rfl

section Run

variable (config : Config) (service : Service) (observer : Observer) (milliseconds : Nat)
  (earlier : List Request) (tree : Tree) (document : Path)

/-- A run ends with a complete outcome, unless the answer to its request derails it. -/
theorem run_result_or_derails :
    (∃ outcome, (run config service observer milliseconds earlier tree document).result =
        .ok outcome ∧ outcome.IsComplete) ∨
      ∃ request,
        (run config service observer milliseconds earlier tree document).requests = [request] ∧
          (service earlier request).Derails
            (run config service observer milliseconds earlier tree document).result := by
  rw [run]
  rcases start_result config observer tree document with
    ⟨outcome, hstart, hcomplete⟩ | ⟨pending, -, hstart, -⟩
  · rw [hstart]
    exact .inl ⟨outcome, rfl, hcomplete⟩
  · rw [hstart]
    rcases (service earlier pending.request).isRegular_or_derails with hregular | ⟨result, hderails⟩
    · exact .inl (finish_result observer milliseconds _ pending hregular)
    · refine .inr ⟨pending.request, rfl, ?_⟩
      simp only [finish_of_derails observer milliseconds _ pending hderails]
      exact hderails

/-- A run ends with an outcome, or a fault escapes from it, unless the service asks to stop. -/
theorem run_result (hservice : ∀ request, ¬(service earlier request).IsInterruption) :
    (∃ outcome, (run config service observer milliseconds earlier tree document).result =
        .ok outcome) ∨
      ∃ fault, (run config service observer milliseconds earlier tree document).result =
        .error (.escaped fault) := by
  rcases run_result_or_derails config service observer milliseconds earlier tree document with
    ⟨outcome, hresult, -⟩ | ⟨request, -, hderails⟩
  · exact .inl ⟨outcome, hresult⟩
  · have hrequest := hservice request
    generalize service earlier request = answer at hderails hrequest
    generalize (run config service observer milliseconds earlier tree document).result = result
      at hderails
    cases hderails with
    | interrupted => exact absurd trivial hrequest
    | reported => exact .inl ⟨_, rfl⟩
    | untold => exact .inr ⟨_, rfl⟩

/-- A run whose answer has something to say ends with an outcome. -/
theorem run_outcome (hservice : ∀ request, (service earlier request).IsConclusive) :
    ∃ outcome, (run config service observer milliseconds earlier tree document).result =
      .ok outcome := by
  rcases run_result_or_derails config service observer milliseconds earlier tree document with
    ⟨outcome, hresult, -⟩ | ⟨request, -, hderails⟩
  · exact ⟨outcome, hresult⟩
  · have hrequest := hservice request
    generalize service earlier request = answer at hderails hrequest
    generalize (run config service observer milliseconds earlier tree document).result = result
      at hderails
    cases hderails with
    | reported => exact ⟨_, rfl⟩
    | interrupted | untold => exact hrequest.elim

end Run

/-- A document, and no other. -/
def loneTree : Tree where
  entries := [(["w"], .directory), (["w", "s.gpt"], .file (sampleOctets "x"))]
  workingDirectory := ["w"]

/-- The service whose transport fails in a way of its own. -/
def brokenService : Service := fun _ _ => .raised (.raised "ConnectionResetError" "gone")

end Pipeline

end ProseCompiler
