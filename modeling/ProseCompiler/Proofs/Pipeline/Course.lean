import ProseCompiler.Pipeline
import ProseCompiler.Proofs.Files.WellFormed

/-!
# The course of a run

`Course` says what a run can be, stage by stage: it ends before the document is
loaded, before the request is sent, before code comes back, while the code is
written, or after that.  The tree changes nowhere but in the writing, and stays
well formed (`run_wellFormed`).

Files of the journal are left aside: a run is looked at with the observer that
writes nothing.
-/

namespace ProseCompiler.Pipeline

/-- The result of a document that ends with a problem. -/
def ending (document : Path) (problem : Problem) : Except Halt Outcome :=
  (failure document problem).map Prod.snd

/-- The result of a document for which the answer held no code. -/
def endingOn (document : Path) (answer : Answer) (problem : Problem) : Except Halt Outcome :=
  match answer.silence? with
  | none => ending document problem
  | some fault => .error (.escaped fault)

/-- The tree, the requests and the result of a run, by the stage that it comes to. -/
inductive Course (config : Config) (service : Service) (earlier : List Request) (tree : Tree)
    (document : Path) : Tree → List Request → Except Halt Outcome → Prop
  | unread {problem : Problem}
      (hload : load tree config document = .error problem) :
      Course config service earlier tree document tree [] (ending document problem)
  | unsent {parsed : Document} {target : Target} {fault : Fault}
      (hload : load tree config document = .ok (parsed, target))
      (hrequest : Request.make config parsed.instructions target.language = .error fault) :
      Course config service earlier tree document tree [] (ending document (.unexpected fault))
  | unanswered {parsed : Document} {target : Target} {request : Request} {problem : Problem}
      (hload : load tree config document = .ok (parsed, target))
      (hrequest : Request.make config parsed.instructions target.language = .ok request)
      (hcode : ((service earlier request).code request document.text target.language).2 =
        .error problem) :
      Course config service earlier tree document tree [request]
        (endingOn document (service earlier request) problem)
  | unwritten {parsed : Document} {target : Target} {request : Request} {code : Text}
      {tree' : Tree} {problem : Problem}
      (hload : load tree config document = .ok (parsed, target))
      (hrequest : Request.make config parsed.instructions target.language = .ok request)
      (hcode : ((service earlier request).code request document.text target.language).2 = .ok code)
      (hwrite : write tree target.output code = (tree', .error problem)) :
      Course config service earlier tree document tree' [request] (ending document problem)
  | written {parsed : Document} {target : Target} {request : Request} {code : Text}
      {tree' : Tree}
      (hload : load tree config document = .ok (parsed, target))
      (hrequest : Request.make config parsed.instructions target.language = .ok request)
      (hcode : ((service earlier request).code request document.text target.language).2 = .ok code)
      (hwrite : write tree target.output code = (tree', .ok ())) :
      Course config service earlier tree document tree' [request]
        (.ok (.succeeded (Location.text target.output) target.language))

theorem observed_silent (tree : Tree) (journal : Journal) :
    observed .silent tree journal = tree := by
  induction journal with
  | nil => rfl
  | cons entry journal ih => exact ih

/-- A part that fails leaves the tree alone, and its result is that of the problem. -/
theorem fail_silent (tree : Tree) (journal : Journal) (document : Path) (problem : Problem) :
    (fail .silent tree journal document problem).tree = tree ∧
      (fail .silent tree journal document problem).result = ending document problem := by
  rw [fail, ending]
  cases failure document problem with
  | error halt => exact ⟨rfl, rfl⟩
  | ok found => exact ⟨rfl, rfl⟩

theorem disappoint_silent (tree : Tree) (journal : Journal) (document : Path) (answer : Answer)
    (problem : Problem) :
    (disappoint .silent tree journal document answer problem).tree = tree ∧
      (disappoint .silent tree journal document answer problem).result =
        endingOn document answer problem := by
  obtain ⟨htree, hresult⟩ := fail_silent tree journal document problem
  rw [disappoint, endingOn]
  cases answer.silence? with
  | none => exact ⟨htree, hresult⟩
  | some fault => exact ⟨htree, rfl⟩

/-! ## The loading of documents -/

section Load

variable {config : Config} {tree : Tree} {document : Path} {parsed : Document} {target : Target}

theorem readText_of_read {text : Text} (h : read tree document = .ok text) :
    tree.readText document.text = .ok text := by
  rw [read] at h
  cases hread : tree.readText document.text with
  | error fault =>
    rw [hread] at h
    simp only at h
    split at h <;> cases h
  | ok other =>
    rw [hread] at h
    cases h
    rfl

/-- A document that is loaded is read, parsed and resolved. -/
theorem resolved_of_load (h : load tree config document = .ok (parsed, target)) :
    ∃ text, tree.readText document.text = .ok text ∧ parsed = Document.parse text ∧
      Target.resolve tree parsed document config.defaultLanguage = .ok target := by
  rw [load] at h
  cases hread : read tree document with
  | error problem =>
    rw [hread] at h
    cases h
  | ok text =>
    rw [hread] at h
    simp only at h
    split at h
    · cases h
    · next hresolve =>
      cases h
      exact ⟨text, readText_of_read hread, rfl, hresolve⟩

end Load

/-! ## The writing of code -/

/-- The directories for an output file can be made at once. -/
def IsWithinReach (tree : Tree) (output : Location) : Prop :=
  ¬tree.IsRemote (Location.parent output).reverse

instance (tree : Tree) (output : Location) : Decidable (IsWithinReach tree output) :=
  inferInstanceAs (Decidable (¬_))

section Write

variable {tree made : Tree} {output : Location} {fault : Fault}

theorem write_of_directory_error
    (h : tree.ensureDirectory (Location.parent output).reverse = (made, .error fault))
    (code : Text) : write tree output code = (made, .error (writeProblem output fault)) := by
  rw [write, h]

theorem write_of_directory_ok
    (h : tree.ensureDirectory (Location.parent output).reverse = (made, .ok ())) (code : Text) :
    write tree output code =
      ((made.writeText (Location.text output) code).1,
        (made.writeText (Location.text output) code).2.mapError (writeProblem output)) := by
  rw [write, h]
  rcases hwrite : made.writeText (Location.text output) code with ⟨written, fault | _⟩ <;>
    simp only [hwrite, Except.mapError]

/-- Writing ends with the directories, or with the file. -/
theorem write_cases (tree : Tree) (output : Location) (code : Text) :
    (∃ made fault,
      tree.ensureDirectory (Location.parent output).reverse = (made, .error fault) ∧
        write tree output code = (made, .error (writeProblem output fault))) ∨
    ∃ made, tree.ensureDirectory (Location.parent output).reverse = (made, .ok ()) ∧
      ((∃ written fault, made.writeText (Location.text output) code = (written, .error fault) ∧
          write tree output code = (written, .error (writeProblem output fault))) ∨
        ∃ written, made.writeText (Location.text output) code = (written, .ok ()) ∧
          write tree output code = (written, .ok ())) := by
  rcases hensure : tree.ensureDirectory (Location.parent output).reverse with ⟨made, fault | _⟩
  · exact .inl ⟨made, fault, rfl, write_of_directory_error hensure code⟩
  · refine .inr ⟨made, rfl, ?_⟩
    rw [write_of_directory_ok hensure code]
    rcases made.writeText (Location.text output) code with ⟨written, fault | _⟩
    · exact .inl ⟨written, fault, rfl, rfl⟩
    · exact .inr ⟨written, rfl, rfl⟩

/-- Whatever comes of it, directories on the way and a file are all that changes. -/
theorem write_changes (tree : Tree) (output : Location) (code : Text) :
    (write tree output code).1 = (tree.ensureDirectory (Location.parent output).reverse).1 ∨
      ∃ place old octets,
        (tree.ensureDirectory (Location.parent output).reverse).1.writable (Location.text output) =
            .ok (place, old) ∧
          (write tree output code).1 =
            (tree.ensureDirectory (Location.parent output).reverse).1.put place (.file octets) := by
  rcases hensure : tree.ensureDirectory (Location.parent output).reverse with ⟨made, fault | _⟩
  · rw [write_of_directory_error hensure code]
    exact .inl rfl
  · rw [write_of_directory_ok hensure code]
    exact made.writeText_changes (Location.text output) code

end Write

/-! ## Before the request -/

section Start

variable {config : Config} {tree : Tree} {document : Path} {parsed : Document} {target : Target}

theorem start_of_load_error {problem : Problem}
    (hload : load tree config document = .error problem) :
    (start config .silent tree document).tree = tree ∧
      (start config .silent tree document).result = (ending document problem).map Start.done := by
  obtain ⟨htree, hresult⟩ := fail_silent tree [processing document] document problem
  simp only [start, Observer.silent, hload]
  exact ⟨htree, congrArg (Except.map Start.done) hresult⟩

theorem start_of_request_error {fault : Fault}
    (hload : load tree config document = .ok (parsed, target))
    (hrequest : Request.make config parsed.instructions target.language = .error fault) :
    (start config .silent tree document).tree = tree ∧
      (start config .silent tree document).result =
        (ending document (.unexpected fault)).map Start.done := by
  have hobserved := observed_silent tree
    [resolvedEntry document target,
      Answer.announcement config document.text target.language]
  obtain ⟨htree, hresult⟩ := fail_silent tree
    [processing document, resolvedEntry document target,
      Answer.announcement config document.text target.language] document (.unexpected fault)
  simp only [start, Observer.silent, hload, hrequest] at hobserved ⊢
  rw [hobserved]
  exact ⟨htree, congrArg (Except.map Start.done) hresult⟩

theorem start_of_request_ok {request : Request}
    (hload : load tree config document = .ok (parsed, target))
    (hrequest : Request.make config parsed.instructions target.language = .ok request) :
    (start config .silent tree document).tree = tree ∧
      (start config .silent tree document).result =
        .ok (.waiting ⟨document, target, request⟩) := by
  simp only [start, Observer.silent, hload, hrequest]
  exact ⟨observed_silent tree _, trivial⟩

end Start

/-! ## After the answer -/

section Finish

variable (milliseconds : Nat) {tree tree' : Tree} {document : Path} {target : Target}
  {request : Request} {answer : Answer} {problem : Problem} {code : Text}

theorem finish_of_code_error
    (hcode : (answer.code request document.text target.language).2 = .error problem) :
    (finish .silent milliseconds tree ⟨document, target, request⟩ answer).tree = tree ∧
      (finish .silent milliseconds tree ⟨document, target, request⟩ answer).result =
        endingOn document answer problem := by
  simp only [finish, hcode, observed_silent]
  exact disappoint_silent tree _ document answer problem

theorem finish_of_write_error
    (hcode : (answer.code request document.text target.language).2 = .ok code)
    (hwrite : write tree target.output code = (tree', .error problem)) :
    (finish .silent milliseconds tree ⟨document, target, request⟩ answer).tree = tree' ∧
      (finish .silent milliseconds tree ⟨document, target, request⟩ answer).result =
        ending document problem := by
  simp only [finish, hcode, observed_silent, hwrite]
  exact fail_silent tree' _ document problem

theorem finish_of_write_ok
    (hcode : (answer.code request document.text target.language).2 = .ok code)
    (hwrite : write tree target.output code = (tree', .ok ())) :
    (finish .silent milliseconds tree ⟨document, target, request⟩ answer).tree = tree' ∧
      (finish .silent milliseconds tree ⟨document, target, request⟩ answer).result =
        .ok (.succeeded (Location.text target.output) target.language) := by
  simp only [finish, hcode, observed_silent, hwrite]
  exact ⟨rfl, trivial⟩

end Finish

/-! ## The whole -/

section Run

variable (config : Config) (service : Service) (milliseconds : Nat) (earlier : List Request)
  (tree : Tree) (document : Path)

/-- A run that ends before the request. -/
theorem run_of_ending {problem : Problem}
    (hstart : (start config .silent tree document).tree = tree ∧
      (start config .silent tree document).result = (ending document problem).map Start.done) :
    (run config service .silent milliseconds earlier tree document).tree = tree ∧
      (run config service .silent milliseconds earlier tree document).requests = [] ∧
      (run config service .silent milliseconds earlier tree document).result =
        ending document problem := by
  obtain ⟨htree, hresult⟩ := hstart
  rw [run, hresult]
  cases ending document problem with
  | error message => exact ⟨htree, rfl, rfl⟩
  | ok outcome => exact ⟨htree, rfl, rfl⟩

/-- A run that sends its request. -/
theorem run_of_waiting {pending : Pending}
    (hstart : (start config .silent tree document).tree = tree ∧
      (start config .silent tree document).result = .ok (.waiting pending)) :
    (run config service .silent milliseconds earlier tree document).tree =
        (finish .silent milliseconds tree pending (service earlier pending.request)).tree ∧
      (run config service .silent milliseconds earlier tree document).requests =
        [pending.request] ∧
      (run config service .silent milliseconds earlier tree document).result =
        (finish .silent milliseconds tree pending (service earlier pending.request)).result := by
  obtain ⟨htree, hresult⟩ := hstart
  rw [run, hresult, htree]
  exact ⟨rfl, rfl, rfl⟩

/-- A run takes no other course than its own. -/
theorem run_of_course {tree' : Tree} {requests : List Request} {result : Except Halt Outcome}
    (hcourse : Course config service earlier tree document tree' requests result) :
    (run config service .silent milliseconds earlier tree document).tree = tree' ∧
      (run config service .silent milliseconds earlier tree document).requests = requests ∧
      (run config service .silent milliseconds earlier tree document).result = result := by
  cases hcourse with
  | unread hload =>
    exact run_of_ending config service milliseconds earlier tree document
      (start_of_load_error hload)
  | unsent hload hrequest =>
    exact run_of_ending config service milliseconds earlier tree document
      (start_of_request_error hload hrequest)
  | unanswered hload hrequest hcode =>
    obtain ⟨htree, hrequests, hresult⟩ :=
      run_of_waiting config service milliseconds earlier tree document
        (start_of_request_ok hload hrequest)
    obtain ⟨htree', hresult'⟩ := @finish_of_code_error milliseconds tree _ _ _ _ _ hcode
    exact ⟨htree.trans htree', hrequests, hresult.trans hresult'⟩
  | unwritten hload hrequest hcode hwrite =>
    obtain ⟨htree, hrequests, hresult⟩ :=
      run_of_waiting config service milliseconds earlier tree document
        (start_of_request_ok hload hrequest)
    obtain ⟨htree', hresult'⟩ := finish_of_write_error milliseconds hcode hwrite
    exact ⟨htree.trans htree', hrequests, hresult.trans hresult'⟩
  | written hload hrequest hcode hwrite =>
    obtain ⟨htree, hrequests, hresult⟩ :=
      run_of_waiting config service milliseconds earlier tree document
        (start_of_request_ok hload hrequest)
    obtain ⟨htree', hresult'⟩ := finish_of_write_ok milliseconds hcode hwrite
    exact ⟨htree.trans htree', hrequests, hresult.trans hresult'⟩

theorem exists_course : ∃ tree' requests result,
    Course config service earlier tree document tree' requests result := by
  cases hload : load tree config document with
  | error problem => exact ⟨_, _, _, .unread hload⟩
  | ok loaded =>
    obtain ⟨parsed, target⟩ := loaded
    cases hrequest : Request.make config parsed.instructions target.language with
    | error fault => exact ⟨_, _, _, .unsent hload hrequest⟩
    | ok request =>
      cases hcode : ((service earlier request).code request document.text target.language).2 with
      | error problem => exact ⟨_, _, _, .unanswered hload hrequest hcode⟩
      | ok code =>
        rcases hwrite : write tree target.output code with ⟨tree', problem | _⟩
        · exact ⟨_, _, _, .unwritten hload hrequest hcode hwrite⟩
        · exact ⟨_, _, _, .written hload hrequest hcode hwrite⟩

/-- Every run takes one of the courses. -/
theorem run_course :
    Course config service earlier tree document
      (run config service .silent milliseconds earlier tree document).tree
      (run config service .silent milliseconds earlier tree document).requests
      (run config service .silent milliseconds earlier tree document).result := by
  obtain ⟨tree', requests, result, hcourse⟩ := exists_course config service earlier tree document
  obtain ⟨htree, hrequests, hresult⟩ :=
    run_of_course config service milliseconds earlier tree document hcourse
  rwa [htree, hrequests, hresult]

end Run

/-! ## Well-formed trees -/

section WellFormed

variable {config : Config} {service : Service} {earlier : List Request} {tree tree' : Tree}
  {document : Path} {requests : List Request} {result : Except Halt Outcome}

theorem write_wellFormed (hform : tree.WellFormed) (output : Location) (code : Text) :
    (write tree output code).1.WellFormed := by
  have hmade := hform.ensureDirectory (Location.parent output).reverse
  rcases write_changes tree output code with heq | ⟨place, old, octets, hopen, heq⟩
  · rwa [heq]
  · rw [heq]
    exact hmade.put_of_writable hopen octets

theorem Course.wellFormed
    (hcourse : Course config service earlier tree document tree' requests result)
    (hform : tree.WellFormed) : tree'.WellFormed := by
  cases hcourse with
  | unread | unsent | unanswered => exact hform
  | @unwritten _ target _ code _ _ _ _ _ hwrite
  | @written _ target _ code _ _ _ _ hwrite =>
    have hwritten := write_wellFormed hform target.output code
    rwa [hwrite] at hwritten

/-- Whatever comes of a run, a well-formed tree stays well formed. -/
theorem run_wellFormed (hform : tree.WellFormed) (milliseconds : Nat) :
    (run config service .silent milliseconds earlier tree document).tree.WellFormed :=
  (run_course config service milliseconds earlier tree document).wellFormed hform

end WellFormed

/-! ## Samples -/

def sampleConfig : Config where
  apiKey := some "test-api-key"
  apiUrl := "https://generation.test/api/v1/chat/completions"
  model := "test/model"

/-- The octets of a text without surrogates. -/
def sampleOctets (t : Text) : Bytes := t.flatMap Utf8.ofCodePoint

/-- The service that answers every request with success and one body. -/
def sampleService (body : Text) : Service := fun _ _ => .response 200 [] (sampleOctets body)

end ProseCompiler.Pipeline
