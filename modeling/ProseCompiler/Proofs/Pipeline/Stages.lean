import ProseCompiler.Proofs.Document.Scaffold
import ProseCompiler.Proofs.Pipeline.Outcomes
import ProseCompiler.Proofs.Pipeline.Source
import ProseCompiler.Proofs.Service.Classification

/-!
# What the code of a failure says

The code of a failure is meant to name the stage that failed: reading the document, or
writing the code, or what lies between.  It does so unless the system cannot even be
asked about the path of the document, more directories are missing for the code than can
be made at once, or there are no octets for the code in a file that was opened for it;
these three are taken for faults that nothing expects.  And a transport that raises an
error of the compiler passes its code on (`code_names_stage_iff`).

Each stage has a lemma that says which codes its failures can have.  The paths that are
written to are no cause for a fault of that kind, since the output file of a document
has been resolved before (`Target.checkPath_output`).
-/

namespace ProseCompiler

/-- The code of the failure that a problem makes. -/
def Problem.code? : Problem → Option Text
  | .reported error => some error.code
  | .unexpected _ => some CompilerError.internalCode
  | .interrupted _ => none

/-! ## Faults of the file system -/

namespace Fault

/-- A refusal of the file system. -/
def IsRefusal (fault : Fault) : Prop := ∃ error path, fault = .system error path

end Fault

namespace Tree

variable {t t' : Tree} {followLast : Bool} {path text : Text} {fault : Fault}

theorem status_of_checkPath_error (hcheck : checkPath path = .error fault) :
    t.status followLast path = .error fault := by
  simp [status, hcheck, bind, Except.bind]

/-- The system cannot be asked about a path for what the path is made of. -/
theorem checkPath_error_cases (hcheck : checkPath path = .error fault) :
    (∃ stretch, fault = .unencodable stretch) ∨ fault = .embeddedNul := by
  simp only [checkPath] at hcheck
  split at hcheck
  · cases hcheck
    exact .inl ⟨_, rfl⟩
  · split at hcheck <;> cases hcheck
    exact .inr rfl

/-- A path that the system cannot be asked about cannot be read. -/
theorem readText_of_checkPath_error (hcheck : checkPath path = .error fault) :
    t.readText path = .error fault := by
  rw [readText, readFile, status_of_checkPath_error hcheck]

theorem checkPath_of_readText (h : t.readText path = .ok text) : checkPath path = .ok () := by
  cases hcheck : checkPath path with
  | ok => rfl
  | error fault =>
    rw [readText_of_checkPath_error hcheck] at h
    cases h

theorem status_error (hcheck : checkPath path = .ok ())
    (h : t.status followLast path = .error fault) : fault.IsRefusal := by
  simp only [status, hcheck, bind, Except.bind] at h
  split at h
  · cases h
    exact ⟨_, _, rfl⟩
  · cases h
    exact ⟨_, _, rfl⟩
  · cases h

/-- A path that the system can be asked about is not read because the system refuses, or
because the octets are not those of a text. -/
theorem readText_error (hcheck : checkPath path = .ok ()) (h : t.readText path = .error fault) :
    fault.IsRefusal ∨ ∃ stretch, fault = .undecodable stretch := by
  rw [readText, readFile] at h
  split at h
  · next hread =>
    split at hread
    · next hstatus =>
      cases hread
      cases h
      exact .inl (status_error hcheck hstatus)
    · cases hread
    · cases hread
      cases h
      exact .inl ⟨_, _, rfl⟩
  · split at h
    · cases h
      exact .inr ⟨_, rfl⟩
    · cases h

theorem makeDirectory_refusal (hcheck : checkPath path = .ok ())
    (h : t.makeDirectory path = .error fault) : fault.IsRefusal := by
  simp only [makeDirectory, hcheck] at h
  split at h <;> cases h <;> exact ⟨_, _, rfl⟩

theorem makeOrKeep_refusal (hcheck : checkPath path = .ok ())
    (h : t.makeOrKeep path = (t', .error fault)) : fault.IsRefusal := by
  rw [makeOrKeep] at h
  cases hmake : t.makeDirectory path with
  | ok made =>
    rw [hmake] at h
    cases h
  | error other =>
    rw [hmake] at h
    simp only at h
    split at h <;> cases h
    exact makeDirectory_refusal hcheck hmake

/-- Directories that the system can be asked about are not made because the system
refuses. -/
theorem makeAll_refusal {reversed : List Text}
    (hcheck : checkPath (Location.text reversed.reverse) = .ok ())
    (h : t.makeAll reversed = (t', .error fault)) : fault.IsRefusal := by
  induction reversed generalizing t' fault with
  | nil => cases h
  | cons name above ih =>
    rw [List.reverse_cons] at hcheck
    rcases makeAll_cons t name above with
      ⟨-, heq⟩ | ⟨made, result, habove, heq | ⟨other, rfl, heq⟩⟩
    · exact makeOrKeep_refusal hcheck (heq ▸ h)
    · exact makeOrKeep_refusal hcheck (heq ▸ h)
    · rw [heq] at h
      cases h
      exact ih (checkPath_of_longer (Location.text_isPrefix_append _ _) hcheck) habove

/-- Directories that can be made at once are not made because the system refuses. -/
theorem ensureDirectory_refusal {reversed : List Text}
    (hcheck : checkPath (Location.text reversed.reverse) = .ok ()) (hnear : ¬t.IsRemote reversed)
    (h : t.ensureDirectory reversed = (t', .error fault)) : fault.IsRefusal := by
  rw [ensureDirectory_of_not_isRemote hnear] at h
  exact makeAll_refusal hcheck h

theorem writable_refusal (hcheck : checkPath path = .ok ()) (h : t.writable path = .error fault) :
    fault.IsRefusal := by
  simp only [writable, hcheck] at h
  split at h <;> cases h <;> exact ⟨_, _, rfl⟩

end Tree

/-- The system can be asked about a place with the extension of a language if it can be
asked about the place. -/
theorem Tree.checkPath_withSuffix {place : Location}
    (hcheck : checkPath (Location.text place) = .ok ()) (hname : (Path.ofLocation place).name ≠ [])
    (language : Text) :
    checkPath (Location.text (Location.parent place ++
      [Path.stemOf (Path.ofLocation place).name ++ ("." ++ Language.extension language)])) =
        .ok () := by
  have habove := checkPath_parent hcheck
  have hlast : place = Location.parent place ++ [(Path.ofLocation place).name] := by
    have hne : place ≠ [] := by
      rintro rfl
      exact hname rfl
    rw [Path.name, Path.ofLocation, List.getLast?_eq_some_getLast hne, Option.getD_some]
    exact (List.dropLast_concat_getLast hne).symm
  rw [hlast, checkPath_concat_eq_ok_iff habove] at hcheck
  rw [checkPath_concat_eq_ok_iff habove]
  intro c hc
  rcases List.mem_append.mp hc with hc | hc
  · exact hcheck c (List.mem_of_mem_take hc)
  rcases List.mem_append.mp hc with hc | hc
  · cases List.mem_singleton.mp hc
    decide
  · exact (Language.mem_extension hc).2.2

/-- The system can be asked about the output file of a document. -/
theorem Target.checkPath_output {tree : Tree} {document : Document} {path : Path}
    {defaultLanguage : Text} {target : Target}
    (h : resolve tree document path defaultLanguage = .ok target) :
    Tree.checkPath (Location.text target.output) = .ok () := by
  rw [resolve] at h
  split at h
  · cases h
  · next place hplace =>
    simp only at h
    split at h
    · cases h
    · next output houtput =>
      cases h
      rw [outputOf] at houtput
      split at houtput
      · exact Tree.checkPath_of_resolve houtput
      · rw [Path.withSuffix] at houtput
        split at houtput
        · cases houtput
        · next hname =>
          cases houtput
          exact Tree.checkPath_withSuffix (Tree.checkPath_of_resolve hplace) hname _

/-! ## Answers -/

/-- What can be wrong with an answer, but for an error that the transport took from the
compiler. -/
inductive Problem.OfAnswer : Problem → Prop
  | service (message : Text) (status : Option Int) (body : Text) :
      OfAnswer (.reported (.service message status body))
  | shape (message : Text) (keys : Option (List Text)) :
      OfAnswer (.reported (.responseShape message keys))
  | empty (language : Option Text) : OfAnswer (.reported (.emptyArtifact language))
  | unexpected (fault : Fault) : OfAnswer (.unexpected fault)
  | interrupted (message : Text) : OfAnswer (.interrupted message)

/-- No problem with an answer has the code of another stage. -/
theorem Problem.OfAnswer.code?_ne {problem : Problem} (h : problem.OfAnswer) :
    problem.code? ≠ some "READ_ERROR" ∧ problem.code? ≠ some "WRITE_ERROR" := by
  have hcodes : ∀ code ∈ [("SERVICE_ERROR" : Text), "RESPONSE_SHAPE_ERROR", "EMPTY_ARTIFACT",
      CompilerError.internalCode],
      some code ≠ some ("READ_ERROR" : Text) ∧ some code ≠ some ("WRITE_ERROR" : Text) := by
    decide
  simp only [List.forall_mem_cons] at hcodes
  obtain ⟨hservice, hshape, hempty, hinternal, -⟩ := hcodes
  cases h with
  | service => exact hservice
  | shape => exact hshape
  | empty => exact hempty
  | unexpected => exact hinternal
  | interrupted => exact ⟨nofun, nofun⟩

namespace Answer

variable {request : Request} {answer : Answer} {problem : Problem} {document language : Text}

theorem jsonBody_error {octets : Bytes} (h : jsonBody octets = .error problem) :
    problem.OfAnswer := by
  rw [jsonBody] at h
  split at h
  · cases h
    exact .shape _ _
  · split at h <;> cases h
    · exact .shape _ _
    · exact .unexpected _
    · exact .unexpected _

theorem value_error (hanswer : ∀ error, answer ≠ .reported error)
    (h : answer.value request = .error problem) : problem.OfAnswer := by
  cases answer with
  | interrupted message =>
    cases h
    exact .interrupted _
  | reported error => exact absurd rfl (hanswer error)
  | untold kind fault =>
    cases h
    exact .unexpected _
  | raised fault =>
    cases h
    exact .unexpected _
  | unreachable kind message =>
    cases h
    exact .service _ _ _
  | response status headers body text =>
    rw [value] at h
    split at h
    · next haddress =>
      rw [addressProblem?] at haddress
      split at haddress <;> cases haddress
      cases h
      exact .unexpected _
    · split at h
      · next hredirect =>
        cases h
        rcases redirectProblem?_cases hredirect with ⟨message, details, rfl⟩ | ⟨fault, rfl⟩
        · exact .service _ _ _
        · exact .unexpected _
      · split at h
        · exact jsonBody_error h
        · cases h
          cases text with
          | error fault => exact .unexpected _
          | ok t => exact .service _ _ _

theorem code_error (hanswer : ∀ error, answer ≠ .reported error)
    (h : (answer.code request document language).2 = .error problem) : problem.OfAnswer := by
  rcases code_error_cases h with hvalue | ⟨error, rfl, ⟨value, hshape⟩ | ⟨t, hcode⟩⟩
  · exact value_error hanswer hvalue
  · obtain ⟨message, keys, rfl⟩ := Shape.ofAnswer_error hshape
    exact .shape _ _
  · rw [Shape.codeIn] at hcode
    split at hcode <;> cases hcode
    exact .empty _

end Answer

/-! ## Stages -/

namespace Pipeline

variable {config : Config} {service : Service} {earlier : List Request} {milliseconds : Nat}
  {tree tree' : Tree} {document : Path} {output : Location} {code error : Text}
  {errorCode : Option Text} {problem : Problem} {requests : List Request}

/-- A failed outcome has the code of the problem that it is made of. -/
theorem code?_of_ending (h : ending document problem = .ok (.failed error errorCode)) :
    errorCode = problem.code? := by
  cases problem <;> cases h <;> rfl

theorem code?_of_endingOn {answer : Answer}
    (h : endingOn document answer problem = .ok (.failed error errorCode)) :
    errorCode = problem.code? := by
  rw [endingOn] at h
  split at h
  · exact code?_of_ending h
  · cases h

/-- A document that is not read fails with the code of reading, if the system can be
asked about its path. -/
theorem code?_of_unread {fault : Fault} (hread : tree.readText document.text = .error fault)
    (hload : load tree config document = .error problem) :
    (Tree.checkPath document.text = .ok () ∧ problem.code? = some "READ_ERROR") ∨
      (Tree.checkPath document.text ≠ .ok () ∧ problem.code? = some "INTERNAL_ERROR") := by
  rw [load, read, hread] at hload
  cases hcheck : Tree.checkPath document.text with
  | ok =>
    rcases Tree.readText_error hcheck hread with ⟨other, path, rfl⟩ | ⟨stretch, rfl⟩ <;>
      cases hload <;> exact .inl ⟨rfl, rfl⟩
  | error refusal =>
    rw [Tree.readText_of_checkPath_error hcheck] at hread
    cases hread
    refine .inr ⟨fun h => (by cases h), ?_⟩
    rcases Tree.checkPath_error_cases hcheck with ⟨stretch, rfl⟩ | rfl <;> cases hload <;> rfl

/-- A document that is read but not resolved fails with a fault. -/
theorem code?_of_unresolved {text : Text} (hread : tree.readText document.text = .ok text)
    (hload : load tree config document = .error problem) :
    problem.code? = some "INTERNAL_ERROR" := by
  rw [load, read, hread] at hload
  simp only at hload
  split at hload <;> cases hload
  rfl

/-- Directories that are too many to be made are no refusal of the system. -/
theorem code?_of_remote (hremote : ¬IsWithinReach tree output)
    (h : write tree output code = (tree', .error problem)) :
    problem.code? = some "INTERNAL_ERROR" := by
  rw [write_of_directory_error (Tree.ensureDirectory_of_isRemote (not_not.mp hremote))] at h
  cases h
  rfl

/-- Code is not written because the system refuses, or because there are no octets for it
and a file was opened. -/
theorem code?_of_unwritten (hcheck : Tree.checkPath (Location.text output) = .ok ())
    (hreach : IsWithinReach tree output) (h : write tree output code = (tree', .error problem)) :
    ((∀ place, ¬Opens tree output place) ∧ problem.code? = some "WRITE_ERROR") ∨
      (∃ c ∈ code, c.isSurrogate = true) ∧ (∃ place, Opens tree output place) ∧
        problem.code? = some "INTERNAL_ERROR" := by
  have habove : Tree.checkPath (Location.text (Location.parent output).reverse.reverse) =
      .ok () := by
    rw [List.reverse_reverse]
    exact Tree.checkPath_parent hcheck
  rcases write_cases tree output code with
    ⟨made, fault, hensure, heq⟩ | ⟨made, hensure, ⟨written, fault, hwrite, heq⟩ | ⟨_, -, heq⟩⟩
  · rw [heq] at h
    cases h
    obtain ⟨other, path, rfl⟩ := Tree.ensureDirectory_refusal habove hreach hensure
    refine .inl ⟨fun place hopens => ?_, rfl⟩
    rw [Opens, hensure] at hopens
    cases hopens.1
  · rw [heq] at h
    cases h
    rw [Tree.writeText] at hwrite
    cases hopen : made.writable (Location.text output) with
    | error refusal =>
      rw [hopen] at hwrite
      cases hwrite
      obtain ⟨other, path, rfl⟩ := Tree.writable_refusal hcheck hopen
      refine .inl ⟨fun place hopens => ?_, rfl⟩
      rw [Opens, hensure, hopen] at hopens
      obtain ⟨-, old, hold⟩ := hopens
      cases hold
    | ok found =>
      obtain ⟨place, old⟩ := found
      rw [hopen] at hwrite
      cases hencode : Utf8.encode code with
      | error stretch =>
        simp only [hencode] at hwrite
        cases hwrite
        refine .inr ⟨Utf8.encode_isError_iff.mp ⟨stretch, hencode⟩, ⟨place, ?_⟩, rfl⟩
        exact ⟨by rw [hensure], old, by rw [hensure]; exact hopen⟩
      | ok octets =>
        simp only [hencode] at hwrite
        cases hwrite
  · rw [heq] at h
    cases h

/-- A code names the stage that failed: that of reading just if the document cannot be
read as text, and that of writing just if the run came to writing code. -/
def NamesStage (config : Config) (service : Service) (earlier : List Request) (tree : Tree)
    (document : Path) (errorCode : Option Text) : Prop :=
  (errorCode = some "READ_ERROR" ↔ ∃ fault, tree.readText document.text = .error fault) ∧
    (errorCode = some "WRITE_ERROR" ↔
      ∃ output code, ComesTo config service earlier tree document output code)

/-- The transport raises an error of the compiler with the code of reading or writing. -/
def Pretends (config : Config) (service : Service) (earlier : List Request) (tree : Tree)
    (document : Path) : Prop :=
  ∃ parsed target request error, load tree config document = .ok (parsed, target) ∧
    Request.make config parsed.instructions target.language = .ok request ∧
    service earlier request = .reported error ∧
    (error.code = "READ_ERROR" ∨ error.code = "WRITE_ERROR")

/-- A run comes to writing code for which too many directories are missing. -/
def Overreaches (config : Config) (service : Service) (earlier : List Request) (tree : Tree)
    (document : Path) : Prop :=
  ∃ output code, ComesTo config service earlier tree document output code ∧
    ¬IsWithinReach tree output

/-- What keeps the code of a failure from naming its stage: a path that the system cannot
be asked about, a file that was opened for code without octets, directories that are too
many to be made, or an error that the transport took from the compiler. -/
def Misnames (config : Config) (service : Service) (earlier : List Request) (tree : Tree)
    (document : Path) : Prop :=
  Tree.checkPath document.text ≠ .ok () ∨
    (∃ place, Spoils config service earlier tree document place) ∨
    Overreaches config service earlier tree document ∨
    Pretends config service earlier tree document

theorem codes_ne :
    some ("INTERNAL_ERROR" : Text) ≠ some "READ_ERROR" ∧
      some ("INTERNAL_ERROR" : Text) ≠ some "WRITE_ERROR" ∧
      some ("READ_ERROR" : Text) ≠ some "WRITE_ERROR" := by
  decide

theorem Spoils.comesTo {place : Location}
    (h : Spoils config service earlier tree document place) :
    ∃ output code, ComesTo config service earlier tree document output code := by
  obtain ⟨parsed, target, request, code, hload, hrequest, hcode, -, -⟩ := h
  exact ⟨_, code, parsed, target, request, hload, hrequest, hcode, rfl⟩

/-- A run has a request to send. -/
def HasRequest (config : Config) (tree : Tree) (document : Path) : Prop :=
  ∃ parsed target request, load tree config document = .ok (parsed, target) ∧
    Request.make config parsed.instructions target.language = .ok request

theorem ComesTo.hasRequest (h : ComesTo config service earlier tree document output code) :
    HasRequest config tree document := by
  obtain ⟨parsed, target, request, hload, hrequest, -⟩ := h
  exact ⟨parsed, target, request, hload, hrequest⟩

theorem Pretends.hasRequest (h : Pretends config service earlier tree document) :
    HasRequest config tree document := by
  obtain ⟨parsed, target, request, error, hload, hrequest, -⟩ := h
  exact ⟨parsed, target, request, hload, hrequest⟩

theorem not_hasRequest_of_load_error (hload : load tree config document = .error problem) :
    ¬HasRequest config tree document := by
  rintro ⟨_, _, _, hload', -⟩
  rw [hload] at hload'
  cases hload'

theorem not_hasRequest_of_request_error {parsed : Document} {target : Target} {fault : Fault}
    (hload : load tree config document = .ok (parsed, target))
    (hrequest : Request.make config parsed.instructions target.language = .error fault) :
    ¬HasRequest config tree document := by
  rintro ⟨_, _, _, hload', hrequest'⟩
  rw [hload] at hload'
  cases hload'
  rw [hrequest] at hrequest'
  cases hrequest'

/-- Nothing misnames the stage of a run that does not come to writing code, if the system
can be asked about its document and the transport raises errors of its own. -/
theorem not_misnames (hcheck : Tree.checkPath document.text = .ok ())
    (hnone : ∀ output code, ¬ComesTo config service earlier tree document output code)
    (hown : ¬Pretends config service earlier tree document) :
    ¬Misnames config service earlier tree document := by
  rintro (hfalse | ⟨place, hspoils⟩ | ⟨output, code, hcomes, -⟩ | hpretends)
  · exact hfalse hcheck
  · obtain ⟨output, code, hcomes⟩ := hspoils.comesTo
    exact hnone output code hcomes
  · exact hnone output code hcomes
  · exact hown hpretends

/-- The transport pretends just if that is what it raises for the request of the run. -/
theorem pretends_iff {parsed : Document} {target : Target} {request : Request}
    (hload : load tree config document = .ok (parsed, target))
    (hrequest : Request.make config parsed.instructions target.language = .ok request) :
    Pretends config service earlier tree document ↔
      ∃ error, service earlier request = .reported error ∧
        (error.code = "READ_ERROR" ∨ error.code = "WRITE_ERROR") := by
  constructor
  · rintro ⟨_, _, _, error, hload', hrequest', hraised⟩
    rw [hload] at hload'
    cases hload'
    rw [hrequest] at hrequest'
    cases hrequest'
    exact ⟨error, hraised⟩
  · rintro ⟨error, hraised⟩
    exact ⟨parsed, target, request, error, hload, hrequest, hraised⟩

/-- A code names the stage that failed just if nothing keeps it from doing so; otherwise it
is that of a fault that nothing expects, or the transport pretends. -/
def NamesStageOrMisnames (config : Config) (service : Service) (earlier : List Request)
    (tree : Tree) (document : Path) (errorCode : Option Text) : Prop :=
  (NamesStage config service earlier tree document errorCode ∧
      ¬Misnames config service earlier tree document) ∨
    (¬NamesStage config service earlier tree document errorCode ∧
      Misnames config service earlier tree document ∧
      (errorCode = some "INTERNAL_ERROR" ∨ Pretends config service earlier tree document))

/-- Between reading and writing a failure has another code than theirs. -/
theorem namesStage_of_between {text : Text} (hread : tree.readText document.text = .ok text)
    (hnone : ∀ output code, ¬ComesTo config service earlier tree document output code)
    (hown : ¬Pretends config service earlier tree document)
    (hcode : errorCode ≠ some "READ_ERROR" ∧ errorCode ≠ some "WRITE_ERROR") :
    NamesStageOrMisnames config service earlier tree document errorCode := by
  refine .inl ⟨⟨⟨fun h => absurd h hcode.1, ?_⟩, ⟨fun h => absurd h hcode.2, ?_⟩⟩,
    not_misnames (Tree.checkPath_of_readText hread) hnone hown⟩
  · rintro ⟨fault, hfault⟩
    rw [hread] at hfault
    cases hfault
  · rintro ⟨output, code, hcomes⟩
    exact absurd hcomes (hnone output code)

/-- Without a request a failure behind reading has another code than those. -/
theorem namesStage_of_not_hasRequest {text : Text} (hread : tree.readText document.text = .ok text)
    (hnone : ¬HasRequest config tree document)
    (hcode : errorCode ≠ some "READ_ERROR" ∧ errorCode ≠ some "WRITE_ERROR") :
    NamesStageOrMisnames config service earlier tree document errorCode :=
  namesStage_of_between hread (fun _ _ hcomes => hnone hcomes.hasRequest)
    (fun hpretends => hnone hpretends.hasRequest) hcode

/-- A document that cannot be read has the code of reading, or the system cannot be asked
about its path. -/
theorem namesStage_of_unread {fault : Fault}
    (hread : tree.readText document.text = .error fault)
    (hload : load tree config document = .error problem) :
    NamesStageOrMisnames config service earlier tree document problem.code? := by
  have hnone : ¬HasRequest config tree document := not_hasRequest_of_load_error hload
  rcases code?_of_unread hread hload with ⟨hcheck, hcode⟩ | ⟨hcheck, hcode⟩
  · rw [hcode]
    refine .inl ⟨⟨⟨fun _ => ⟨fault, hread⟩, fun _ => rfl⟩, fun h => absurd h codes_ne.2.2, ?_⟩,
      not_misnames hcheck (fun _ _ hcomes => hnone hcomes.hasRequest)
        fun hpretends => hnone hpretends.hasRequest⟩
    rintro ⟨output, code, hcomes⟩
    exact absurd hcomes.hasRequest hnone
  · rw [hcode]
    exact .inr ⟨fun h => codes_ne.1 (h.1.mpr ⟨fault, hread⟩), .inl hcheck, .inl rfl⟩

/-- Code that is not written has the code of writing, or too many directories were missing
for it, or a file was opened for code without octets. -/
theorem namesStage_of_unwritten {parsed : Document} {target : Target} {request : Request}
    (hload : load tree config document = .ok (parsed, target))
    (hrequest : Request.make config parsed.instructions target.language = .ok request)
    (hcode : ((service earlier request).code request document.text target.language).2 = .ok code)
    (hwrite : write tree target.output code = (tree', .error problem)) :
    NamesStageOrMisnames config service earlier tree document problem.code? := by
  obtain ⟨text, hread, -, hresolve⟩ := resolved_of_load hload
  have hcomes : ComesTo config service earlier tree document target.output code :=
    ⟨parsed, target, request, hload, hrequest, hcode, rfl⟩
  have hinternal (hmisnames : Misnames config service earlier tree document)
      (hproblem : problem.code? = some "INTERNAL_ERROR") :
      NamesStageOrMisnames config service earlier tree document problem.code? := by
    rw [hproblem]
    exact .inr ⟨fun h => codes_ne.2.1 (h.2.mpr ⟨_, _, hcomes⟩), hmisnames, .inl rfl⟩
  by_cases hreach : IsWithinReach tree target.output
  · rcases code?_of_unwritten (Target.checkPath_output hresolve) hreach hwrite with
      ⟨hopens, hwritten⟩ | ⟨hsurrogate, ⟨place, hopens⟩, hproblem⟩
    · rw [hwritten]
      refine .inl ⟨⟨⟨fun h => absurd h.symm codes_ne.2.2, ?_⟩, fun _ => ⟨_, _, hcomes⟩,
        fun _ => rfl⟩, ?_⟩
      · rintro ⟨fault, hfault⟩
        rw [hread] at hfault
        cases hfault
      · rintro (hcheck | ⟨place, hspoils⟩ | ⟨output, code, hcomes', hremote⟩ | hpretends)
        · exact hcheck (Tree.checkPath_of_readText hread)
        · exact hopens place ((spoils_iff hload hrequest hcode).mp hspoils).2
        · exact hremote (((comesTo_iff hload hrequest).mp hcomes').2 ▸ hreach)
        · obtain ⟨error, hraised, -⟩ := (pretends_iff hload hrequest).mp hpretends
          rw [hraised] at hcode
          cases hcode
    · exact hinternal (.inr (.inl
        ⟨place, (spoils_iff hload hrequest hcode).mpr ⟨hsurrogate, hopens⟩⟩)) hproblem
  · exact hinternal (.inr (.inr (.inl ⟨_, _, hcomes, hreach⟩))) (code?_of_remote hreach hwrite)

/-- An answer without code has a code of neither reading nor writing, or the transport
pretends. -/
theorem namesStage_of_unanswered {parsed : Document} {target : Target} {request : Request}
    (hload : load tree config document = .ok (parsed, target))
    (hrequest : Request.make config parsed.instructions target.language = .ok request)
    (hcode : ((service earlier request).code request document.text target.language).2 =
      .error problem) :
    NamesStageOrMisnames config service earlier tree document problem.code? := by
  obtain ⟨text, hread, -, -⟩ := resolved_of_load hload
  have hnone : ∀ output code, ¬ComesTo config service earlier tree document output code := by
    intro output code hcomes
    rw [((comesTo_iff hload hrequest).mp hcomes).1] at hcode
    cases hcode
  by_cases hpretends : Pretends config service earlier tree document
  · obtain ⟨error, hraised, hstage⟩ := (pretends_iff hload hrequest).mp hpretends
    rw [hraised] at hcode
    cases hcode
    refine .inr ⟨?_, .inr (.inr (.inr hpretends)), .inr hpretends⟩
    rintro ⟨hreads, hwrites⟩
    rcases hstage with hstage | hstage
    · obtain ⟨fault, hfault⟩ := hreads.mp (congrArg some hstage)
      rw [hread] at hfault
      cases hfault
    · obtain ⟨output, code, hcomes⟩ := hwrites.mp (congrArg some hstage)
      exact hnone output code hcomes
  · refine namesStage_of_between hread hnone hpretends ?_
    by_cases hown : ∃ error, service earlier request = .reported error
    · obtain ⟨error, hraised⟩ := hown
      rw [hraised] at hcode
      cases hcode
      exact ⟨fun h => hpretends ((pretends_iff hload hrequest).mpr
          ⟨error, hraised, .inl (Option.some.inj h)⟩),
        fun h => hpretends ((pretends_iff hload hrequest).mpr
          ⟨error, hraised, .inr (Option.some.inj h)⟩)⟩
    · exact (Answer.code_error (fun error heq => hown ⟨error, heq⟩) hcode).code?_ne

/-- Whatever course a failed run takes, its code names the stage, or something misnames
it. -/
theorem Course.namesStage {result : Except Halt Outcome}
    (hcourse : Course config service earlier tree document tree' requests result)
    (hresult : result = .ok (.failed error errorCode)) :
    NamesStageOrMisnames config service earlier tree document errorCode := by
  cases hcourse with
  | unread hload =>
    obtain rfl := code?_of_ending hresult
    cases hread : tree.readText document.text with
    | error fault => exact namesStage_of_unread hread hload
    | ok text =>
      rw [code?_of_unresolved hread hload]
      exact namesStage_of_not_hasRequest hread (not_hasRequest_of_load_error hload)
        ⟨codes_ne.1, codes_ne.2.1⟩
  | unsent hload hrequest =>
    obtain ⟨text, hread, -, -⟩ := resolved_of_load hload
    obtain rfl := code?_of_ending hresult
    exact namesStage_of_not_hasRequest hread (not_hasRequest_of_request_error hload hrequest)
      ⟨codes_ne.1, codes_ne.2.1⟩
  | unanswered hload hrequest hcode =>
    obtain rfl := code?_of_endingOn hresult
    exact namesStage_of_unanswered hload hrequest hcode
  | unwritten hload hrequest hcode hwrite =>
    obtain rfl := code?_of_ending hresult
    exact namesStage_of_unwritten hload hrequest hcode hwrite
  | written => cases hresult

/-- Nothing is asked about a document that cannot be read. -/
theorem Course.requests_of_unread {result : Except Halt Outcome} {fault : Fault}
    (hcourse : Course config service earlier tree document tree' requests result)
    (hread : tree.readText document.text = .error fault) : requests = [] := by
  cases hcourse with
  | unread | unsent => rfl
  | unanswered hload | unwritten hload | written hload =>
    obtain ⟨text, hread', -, -⟩ := resolved_of_load hload
    rw [hread] at hread'
    cases hread'

/-- A document that cannot be read sends no request.  The code of a failure names the
stage that failed if and only if the system can be asked about the path of the document,
the run does not come to opening a file for code that has no octets, nor to making more
directories than can be made at once, and the transport does not raise the compiler's own
errors of reading or writing.  Otherwise the code is that of a fault that nothing expects,
or the one that the transport raised. -/
theorem code_names_stage_iff
    (hfailed : (run config service .silent milliseconds earlier tree document).result =
      .ok (.failed error errorCode)) :
    ((∃ fault, tree.readText document.text = .error fault) →
      (run config service .silent milliseconds earlier tree document).requests = []) ∧
    (NamesStage config service earlier tree document errorCode ↔
      Tree.checkPath document.text = .ok () ∧
        (∀ place, ¬Spoils config service earlier tree document place) ∧
        ¬Overreaches config service earlier tree document ∧
        ¬Pretends config service earlier tree document) ∧
    (¬NamesStage config service earlier tree document errorCode →
      errorCode = some "INTERNAL_ERROR" ∨ Pretends config service earlier tree document) := by
  have hcourse := run_course config service milliseconds earlier tree document
  have hstage := hcourse.namesStage hfailed
  have hfits : ¬Misnames config service earlier tree document ↔
      Tree.checkPath document.text = .ok () ∧
        (∀ place, ¬Spoils config service earlier tree document place) ∧
        ¬Overreaches config service earlier tree document ∧
        ¬Pretends config service earlier tree document := by
    rw [Misnames, not_or, not_or, not_or, not_not, not_exists]
  refine ⟨?_, ?_, fun hnot => ?_⟩
  · rintro ⟨fault, hread⟩
    exact hcourse.requests_of_unread hread
  · rw [← hfits]
    rcases hstage with ⟨hnames, hfit⟩ | ⟨hnames, hmisfit, -⟩
    · exact ⟨fun _ => hfit, fun _ => hnames⟩
    · exact ⟨fun h => absurd h hnames, fun h => absurd hmisfit h⟩
  · rcases hstage with ⟨hnames, -⟩ | ⟨-, -, hcode⟩
    · exact absurd hnames hnot
    · exact hcode

/-! ## Codes that do not name the stage, and one that does -/

/-- The document is named with a NUL. -/
def nulRun : Run :=
  run sampleConfig surrogateService .silent 0 [] compiledTree (Path.ofText "s\x00.gpt")

/-- There is code that was not written, and a document that was not read, and both
failures have the code of a fault that nothing expects. -/
theorem misnamed_stages :
    ((∃ error, surrogateRun.result = .ok (.failed error (some "INTERNAL_ERROR"))) ∧
      ∃ output code, ComesTo sampleConfig surrogateService [] compiledTree (Path.ofText "s.gpt")
        output code) ∧
    ((∃ error, nulRun.result = .ok (.failed error (some "INTERNAL_ERROR"))) ∧
      ∃ fault, compiledTree.readText (Path.text (Path.ofText "s\x00.gpt")) = .error fault) := by
  obtain ⟨hfailed, hlost⟩ := surrogateRun_eq
  refine ⟨⟨⟨_, hfailed⟩, ?_⟩, ⟨"ValueError: embedded null byte", by decide +kernel⟩, .embeddedNul,
    by decide +kernel⟩
  rcases (run_course sampleConfig surrogateService 0 [] compiledTree
    (Path.ofText "s.gpt")).same_or_comesTo with ⟨hsame, -⟩ | ⟨output, code, hcomes, -⟩
  · have hkept : surrogateRun.tree.node? ["w", "s.js"] = compiledTree.node? ["w", "s.js"] :=
      congrArg (Tree.node? · ["w", "s.js"]) hsame
    rw [hlost] at hkept
    exact absurd hkept (by decide +kernel)
  · exact ⟨output, code, hcomes⟩

/-- A directory stands where the artifact should. -/
def blockedTree : Tree where
  entries := [(["w"], .directory), (["w", "s.gpt"], .file (sampleOctets "x")),
    (["w", "s.js"], .directory)]
  workingDirectory := ["w"]

def blockedRun : Run :=
  run sampleConfig (sampleService "\x7b\"content\": \"x\"\x7d") .silent 0 [] blockedTree
    (Path.ofText "s.gpt")

/-- The failure has the code of writing, since there was code to be written. -/
theorem blocked_artifact_names_stage :
    (∃ error, blockedRun.result = .ok (.failed error (some "WRITE_ERROR"))) ∧
      NamesStage sampleConfig (sampleService "\x7b\"content\": \"x\"\x7d") [] blockedTree
        (Path.ofText "s.gpt") (some "WRITE_ERROR") := by
  have hfailed : blockedRun.result = .ok (.failed
      "Failed to write artifact /w/s.js: [Errno 21] Is a directory: '/w/s.js'"
      (some "WRITE_ERROR")) := by
    decide +kernel
  refine ⟨⟨_, hfailed⟩, ?_⟩
  by_contra hnot
  rcases (code_names_stage_iff hfailed).2.2 hnot with hcode | ⟨_, _, _, _, -, -, hraised, -⟩
  · exact codes_ne.2.1 hcode.symm
  · cases hraised

end Pipeline

end ProseCompiler
