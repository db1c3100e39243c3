import ProseCompiler.Proofs.Document.Target
import ProseCompiler.Proofs.Files.Providing
import ProseCompiler.Proofs.Pipeline.Course
import ProseCompiler.Proofs.Service.Answer

/-!
# What a successful run leaves behind

A run that succeeds sent one request, and the file that its output path leads to
holds the code of the answer.  The rest of the tree is as it was, but for new
directories on the way to that file.

The frame is that of any file below directories that were provided
(`Provides.putsFile`).  A link at the end of the output path is followed only if
no directory was made.
-/

namespace ProseCompiler.Pipeline

variable {config : Config} {service : Service} {milliseconds : Nat} {earlier : List Request}
  {tree tree' : Tree} {document : Path} {parsed : Document} {target : Target}
  {output place : Location} {code : Text}

/-- Written code stands where the output path leads to.  A file or nothing stood
there, and nothing else changes but for new directories above. -/
theorem write_ok (hform : tree.WellFormed) (hclean : output.IsClean)
    (h : write tree output code = (tree', .ok ())) :
    ∃ place octets, Utf8.encode code = .ok octets ∧
      tree'.find true (Location.text output) = .ok (place, some (.file octets)) ∧
      (tree.node? place = none ∨ ∃ old, tree.node? place = some (.file old)) ∧
      (∀ l, l ≠ place → tree'.node? l = tree.node? l ∨
        tree.node? l = none ∧ tree'.node? l = some .directory ∧ l <+: place) ∧
      tree'.workingDirectory = tree.workingDirectory := by
  rcases write_cases tree output code with
    ⟨_, _, -, heq⟩ | ⟨made, hensure, ⟨_, _, -, heq⟩ | ⟨written, hwrite, heq⟩⟩
  · rw [heq] at h
    cases h
  · rw [heq] at h
    cases h
  · rw [heq] at h
    cases h
    obtain ⟨place, old, octets, hwritable, hencode, rfl⟩ := Tree.writeText_ok hwrite
    obtain ⟨n, hfind⟩ := Tree.find_of_writable hwritable
    have hne : output ≠ [] := by
      rintro rfl
      rw [Tree.find_text_nil] at hfind
      cases hfind
      exact (Tree.isLeaf_of_writable hwritable).ne_nil rfl
    have hprovides := Tree.Provides.of_ensureDirectory hform hclean.parent hensure
    have hputs := hprovides.putsFile hform hclean hne hwritable octets
    exact ⟨place, octets, hencode, Tree.find_put_of_writable hwritable octets,
      (hprovides.node?_of_writable hwritable).imp_right fun hfile => ⟨old, hfile⟩,
      hputs.others, hputs.workingDirectory_eq⟩

/-- A run with an output path wrote code. -/
theorem Course.written_of_succeeded {requests : List Request} {result : Except Halt Outcome}
    {outputPath language : Text}
    (hcourse : Course config service earlier tree document tree' requests result)
    (hresult : result = .ok (.succeeded outputPath language)) :
    ∃ parsed target request code,
      load tree config document = .ok (parsed, target) ∧
      Request.make config parsed.instructions target.language = .ok request ∧
      ((service earlier request).code request document.text target.language).2 = .ok code ∧
      write tree target.output code = (tree', .ok ()) ∧ requests = [request] ∧
      outputPath = Location.text target.output ∧ language = target.language := by
  have hending : ∀ problem, ending document problem ≠ .ok (.succeeded outputPath language) := by
    intro problem
    cases problem <;> simp [ending, failure, Except.map, Outcome.ofError, Outcome.ofFault]
  cases hcourse with
  | unread | unsent | unwritten => exact absurd hresult (hending _)
  | unanswered =>
    rw [endingOn] at hresult
    split at hresult
    · exact absurd hresult (hending _)
    · cases hresult
  | @written parsed target request code _ hload hrequest hcode hwrite =>
    cases hresult
    exact ⟨parsed, target, request, code, hload, hrequest, hcode, hwrite, rfl, rfl, rfl⟩

/-- A run that succeeds sent one request.  Its output path and its language are
those of the document, and the output path leads to a file with the trimmed text
of the answer.  Everything else is as it was, but for new directories above that
file. -/
theorem succeeded_run_writes_one_file {outputPath language : Text} (hform : tree.WellFormed)
    (hsucceeded : (run config service .silent milliseconds earlier tree document).result =
      .ok (.succeeded outputPath language)) :
    ∃ text target request status headers body bodyText json shape content octets place,
      tree.readText document.text = .ok text ∧
      Target.resolve tree (Document.parse text) document config.defaultLanguage = .ok target ∧
      outputPath = Location.text target.output ∧ language = target.language ∧
      Request.make config (Document.parse text).instructions target.language = .ok request ∧
      (run config service .silent milliseconds earlier tree document).requests = [request] ∧
      service earlier request = .response status headers body bodyText ∧
      Answer.isSuccess status = true ∧ Answer.jsonBody body = .ok json ∧
      Shape.ofAnswer json = .ok (shape, content) ∧ Text.trim content ≠ [] ∧
      Utf8.encode (Text.trim content) = .ok octets ∧
      (run config service .silent milliseconds earlier tree document).tree.find true outputPath =
        .ok (place, some (.file octets)) ∧
      (tree.node? place = none ∨ ∃ old, tree.node? place = some (.file old)) ∧
      (∀ l, l ≠ place →
        (run config service .silent milliseconds earlier tree document).tree.node? l =
            tree.node? l ∨
          tree.node? l = none ∧
            (run config service .silent milliseconds earlier tree document).tree.node? l =
              some .directory ∧
            l <+: place) ∧
      (run config service .silent milliseconds earlier tree document).tree.workingDirectory =
        tree.workingDirectory := by
  obtain ⟨parsed, target, request, code, hload, hrequest, hcode, hwrite, hrequests, rfl, rfl⟩ :=
    (run_course config service milliseconds earlier tree document).written_of_succeeded hsucceeded
  obtain ⟨text, hread, rfl, hresolve⟩ := resolved_of_load hload
  obtain ⟨json, shape, content, hvalue, hshape, hcontent, rfl⟩ := Answer.shape_of_code hcode
  obtain ⟨status, headers, body, bodyText, hanswer, hstatus, hbody⟩ :=
    Answer.response_of_value hvalue
  have hworking := hform.isClean hform.workingDirectory_isDirectory
  obtain ⟨place, octets, hencode, hfind, hplace, hframe, hdirectory⟩ :=
    write_ok hform (Target.resolve_isClean hworking hresolve) hwrite
  exact ⟨text, target, request, status, headers, body, bodyText, json, shape, content, octets,
    place, hread, hresolve, rfl, rfl, hrequest, hrequests, hanswer, hstatus, hbody, hshape,
    hcontent, hencode, hfind, hplace, hframe, hdirectory⟩

/-! ## An output behind a link -/

/-- A document that asks for an output in a directory that is not there, behind a
link. -/
def linkedTree : Tree where
  entries := [(["w"], .directory), (["w", "real"], .directory), (["w", "link"], .link "real"),
    (["w", "s.gpt"], .file (sampleOctets "@output: link/new/s.js\n\nx"))]
  workingDirectory := ["w"]

/-- The document is compiled to code with blanks around it. -/
def linkedRun : Run :=
  run sampleConfig (sampleService "\x7b\"content\": \"  code\\n\"\x7d") .silent 0 [] linkedTree
    (Path.ofText "s.gpt")

theorem linkedTree_wellFormed : linkedTree.WellFormed :=
  .of_entries (by decide +kernel) (by decide +kernel)

/-- The file stands behind the link, and nothing but the directory that was
missing is new besides. -/
theorem linked_run_writes_one_file :
    linkedTree.WellFormed ∧
      linkedRun.result = .ok (.succeeded "/w/real/new/s.js" "javascript") ∧
      ∃ octets place,
        linkedRun.tree.find true "/w/real/new/s.js" = .ok (place, some (.file octets)) ∧
        ∀ l, l ≠ place → linkedRun.tree.node? l = linkedTree.node? l ∨
          linkedTree.node? l = none ∧ linkedRun.tree.node? l = some .directory ∧ l <+: place := by
  have hresult : linkedRun.result = .ok (.succeeded "/w/real/new/s.js" "javascript") := by
    decide +kernel
  obtain ⟨_, _, _, _, _, _, _, _, _, _, octets, place, -, -, -, -, -, -, -, -, -, -, -, -, hfind,
    -, hframe, -⟩ := succeeded_run_writes_one_file linkedTree_wellFormed hresult
  exact ⟨linkedTree_wellFormed, hresult, octets, place, hfind, hframe⟩

end ProseCompiler.Pipeline
