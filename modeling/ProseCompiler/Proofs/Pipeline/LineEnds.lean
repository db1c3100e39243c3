import ProseCompiler.Proofs.Encoding.Utf8
import ProseCompiler.Proofs.Files.Rewritten
import ProseCompiler.Proofs.Pipeline.Source
import ProseCompiler.Proofs.Text.LineEnds

/-!
# The line ends of a document

A text can be kept in a file with line feeds, with carriage returns, or with both at
every line end.  Read back it is the same text (`unifyNewlines_withLineEnds`), so a run
makes the same of it: the same request, the same result, and the same artifact.

Two trees with the text kept in two ways differ in one file.  That they still do so
after the run, and in nothing else, follows stage by stage from what holds of any two
such trees.
-/

namespace ProseCompiler

/-- A file that a path leads to is read as its text, if the system can be asked about
the path. -/
theorem Tree.readText_of_find {t : Tree} {path raw : Text} {place : Location} {content : Bytes}
    (hfind : t.find true path = .ok (place, some (.file content)))
    (hdecode : Utf8.decode content = .ok raw) :
    t.readText path = (checkPath path).map fun _ => Text.unifyNewlines raw := by
  cases hcheck : checkPath path with
  | error fault =>
    have hstatus : t.status true path = .error fault := by
      simp [status, hcheck, bind, Except.bind]
    rw [readText, readFile, hstatus]
    rfl
  | ok =>
    rw [readText, readFile, status_eq_ok_iff.mpr ⟨hcheck, hfind⟩]
    simp only [hdecode, Except.map]

/-! ## Runs -/

namespace Pipeline

variable {config : Config} {service : Service} {earlier : List Request}
  {tree other tree' : Tree} {place : Location} {content content' : Bytes} {document : Path}
  {requests : List Request} {result : Except Halt Outcome}

theorem resolve_rewritten (h : Tree.Rewritten place content content' tree other)
    (parsed : Document) (document : Path) (language : Text) :
    Target.resolve other parsed document language =
      Target.resolve tree parsed document language := by
  have houtput (parsed : Document) (found : Location) (language : Text) :
      Target.outputOf other parsed found language = Target.outputOf tree parsed found language := by
    rw [Target.outputOf, Target.outputOf]
    simp only [h.resolve_eq]
  rw [Target.resolve, Target.resolve, h.resolve_eq]
  simp only [houtput]

/-- A document that is read alike is loaded alike. -/
theorem load_rewritten (h : Tree.Rewritten place content content' tree other)
    (hread : other.readText document.text = tree.readText document.text) :
    load other config document = load tree config document := by
  have hread' : read other document = read tree document := by rw [read, read, hread]
  rw [load, load, hread']
  simp only [resolve_rewritten h]

theorem write_rewritten (h : Tree.Rewritten place content content' tree other)
    (output : Location) (code : Text) :
    (write other output code).2 = (write tree output code).2 ∧
      Tree.Rewritten place content content' (write tree output code).1
        (write other output code).1 := by
  obtain ⟨hresult, hmade⟩ := h.ensureDirectory (Location.parent output).reverse
  rcases hensure : tree.ensureDirectory (Location.parent output).reverse with ⟨made, fault | _⟩ <;>
    rcases hensure' : other.ensureDirectory (Location.parent output).reverse with
      ⟨made', fault' | _⟩ <;>
    rw [hensure, hensure'] at hresult hmade <;> cases hresult
  · rw [write_of_directory_error hensure, write_of_directory_error hensure']
    exact ⟨rfl, hmade⟩
  · rw [write_of_directory_ok hensure, write_of_directory_ok hensure']
    obtain ⟨hresult, hwritten⟩ := hmade.writeText (Location.text output) code
    exact ⟨congrArg (Except.mapError (writeProblem output)) hresult, hwritten⟩

/-- In a tree that differs in one file, a document that is loaded alike takes the same
course. -/
theorem Course.rewritten (h : Tree.Rewritten place content content' tree other)
    (hload : load other config document = load tree config document)
    (hcourse : Course config service earlier tree document tree' requests result) :
    ∃ other', Course config service earlier other document other' requests result ∧
      Tree.Rewritten place content content' tree' other' := by
  cases hcourse with
  | unread hfirst => exact ⟨other, .unread (hload.trans hfirst), h⟩
  | unsent hfirst hrequest => exact ⟨other, .unsent (hload.trans hfirst) hrequest, h⟩
  | unanswered hfirst hrequest hcode =>
    exact ⟨other, .unanswered (hload.trans hfirst) hrequest hcode, h⟩
  | @unwritten _ target _ code _ _ hfirst hrequest hcode hwrite =>
    obtain ⟨hresult, hwritten⟩ := write_rewritten h target.output code
    rw [hwrite] at hresult hwritten
    exact ⟨_, .unwritten (hload.trans hfirst) hrequest hcode (Prod.ext rfl hresult), hwritten⟩
  | @written _ target _ code _ hfirst hrequest hcode hwrite =>
    obtain ⟨hresult, hwritten⟩ := write_rewritten h target.output code
    rw [hwrite] at hresult hwritten
    exact ⟨_, .written (hload.trans hfirst) hrequest hcode (Prod.ext rfl hresult), hwritten⟩

/-- Code that was written is read back under the output path. -/
theorem readFile_of_write {output : Location} {code : Text}
    (h : write tree output code = (tree', .ok ())) :
    ∃ octets, Utf8.encode code = .ok octets ∧
      tree'.readFile (Location.text output) = .ok octets := by
  rcases write_cases tree output code with
    ⟨_, _, -, heq⟩ | ⟨made, -, ⟨_, _, -, heq⟩ | ⟨written, hwrite, heq⟩⟩
  · rw [heq] at h
    cases h
  · rw [heq] at h
    cases h
  · rw [heq] at h
    cases h
    obtain ⟨place, old, octets, hopen, hencode, rfl⟩ := Tree.writeText_ok hwrite
    have hcheck := (Tree.writable_eq_ok_iff.mp hopen).1
    have hfind := Tree.find_put_of_writable hopen octets
    refine ⟨octets, hencode, ?_⟩
    rw [Tree.readFile, Tree.status_eq_ok_iff.mpr ⟨hcheck, hfind⟩]

/-- The artifact of a run that succeeds is the code that the run came to. -/
theorem Course.artifact_of_succeeded {outputPath language : Text}
    (hcourse : Course config service earlier tree document tree' requests result)
    (hresult : result = .ok (.succeeded outputPath language)) :
    ∃ output code octets, ComesTo config service earlier tree document output code ∧
      Utf8.encode code = .ok octets ∧ tree'.readFile outputPath = .ok octets := by
  obtain ⟨parsed, target, request, code, hload, hrequest, hcode, hwrite, -, rfl, -⟩ :=
    hcourse.written_of_succeeded hresult
  obtain ⟨octets, hencode, hread⟩ := readFile_of_write hwrite
  exact ⟨_, code, octets, ⟨parsed, target, request, hload, hrequest, hcode, rfl⟩, hencode, hread⟩

/-- A text without carriage returns is kept in the file of a document, with one line end
or with another.  The run sends the same requests, comes to the same result, and leaves
the same artifact; and apart from the document itself, where it still stands as it was,
the trees are the same afterwards. -/
theorem line_ends_are_irrelevant {text : Text} {old octets octets' : Bytes} {e e' : LineEnd}
    (hplain : ('\r' : CodePoint) ∉ text)
    (hdocument : tree.find true document.text = .ok (place, some (.file old)))
    (hfirst : Utf8.encode (text.withLineEnds e) = .ok octets)
    (hsecond : Utf8.encode (text.withLineEnds e') = .ok octets') (milliseconds : Nat) :
    let first := run config service .silent milliseconds earlier
      (tree.put place (.file octets)) document
    let second := run config service .silent milliseconds earlier
      (tree.put place (.file octets')) document
    second.requests = first.requests ∧ second.result = first.result ∧
      (∀ outputPath language, first.result = .ok (.succeeded outputPath language) →
        ∃ artifact, first.tree.readFile outputPath = .ok artifact ∧
          second.tree.readFile outputPath = .ok artifact) ∧
      ∀ l, second.tree.node? l = first.tree.node? l ∨
        l = place ∧ first.tree.node? l = some (.file octets) ∧
          second.tree.node? l = some (.file octets') := by
  intro first second
  have hfile : some (.file old) = tree.node? place := Tree.node?_of_find hdocument
  have hleaf : tree.IsLeaf place := ⟨by simp [← hfile], fun _ => by simp [← hfile]⟩
  have hread {octets : Bytes} {e : LineEnd}
      (hencode : Utf8.encode (text.withLineEnds e) = .ok octets) :
      (tree.put place (.file octets)).readText document.text =
        (Tree.checkPath document.text).map fun _ => text := by
    have hfind := Tree.find_put (e := .file octets) hleaf (fun _ => by simp) hdocument
    rw [Tree.node?_put_self hleaf.ne_nil] at hfind
    rw [Tree.readText_of_find hfind (Utf8.decode_of_encode hencode),
      Text.unifyNewlines_withLineEnds e hplain]
  have htrees : Tree.Rewritten place octets octets' (tree.put place (.file octets))
      (tree.put place (.file octets')) := .of_put tree hleaf.ne_nil
  have hload : load (tree.put place (.file octets')) config document =
      load (tree.put place (.file octets)) config document :=
    load_rewritten htrees ((hread hsecond).trans (hread hfirst).symm)
  have hcourse := run_course config service milliseconds earlier
    (tree.put place (.file octets)) document
  obtain ⟨other, hcourse', hafter⟩ := hcourse.rewritten htrees hload
  obtain ⟨htree, hrequests, hresult⟩ := run_of_course config service milliseconds earlier
    (tree.put place (.file octets')) document hcourse'
  refine ⟨hrequests, hresult, fun outputPath language hsucceeded => ?_, fun l => ?_⟩
  · obtain ⟨output, code, artifact, hcomes, hencode, hartifact⟩ :=
      hcourse.artifact_of_succeeded hsucceeded
    obtain ⟨output', code', artifact', hcomes', hencode', hartifact'⟩ :=
      hcourse'.artifact_of_succeeded hsucceeded
    rw [ComesTo, hload] at hcomes'
    obtain ⟨-, rfl⟩ := ComesTo.unique hcomes hcomes'
    cases hencode.symm.trans hencode'
    exact ⟨artifact, hartifact, htree ▸ hartifact'⟩
  · have hsame := hafter.same_or_file l
    rwa [← htree] at hsame

/-! ## A document with empty lines -/

/-- A text with a header, with empty lines, and with line ends behind everything else. -/
def spacedText : Text := "@language: Python\n\nfirst\n\n\nlast\n\n"

def spacedTree : Tree where
  entries := [(["w"], .directory), (["w", "s.gpt"], .file [])]
  workingDirectory := ["w"]

/-- The text is compiled with one line end or another. -/
def spacedRun (e : LineEnd) : Run :=
  run sampleConfig (sampleService "\x7b\"content\": \"x\"\x7d") .silent 0 []
    (spacedTree.put ["w", "s.gpt"] (.file (sampleOctets (spacedText.withLineEnds e))))
    (Path.ofText "s.gpt")

/-- The file holds other octets, and the same artifact is made of it. -/
theorem line_ends_make_one_artifact :
    sampleOctets (spacedText.withLineEnds .both) ≠
        sampleOctets (spacedText.withLineEnds .carriageReturn) ∧
      (spacedRun .both).result = .ok (.succeeded "/w/s.py" "python") ∧
      (spacedRun .carriageReturn).requests = (spacedRun .both).requests ∧
      ∃ artifact, (spacedRun .both).tree.readFile "/w/s.py" = .ok artifact ∧
        (spacedRun .carriageReturn).tree.readFile "/w/s.py" = .ok artifact := by
  have hresult : (spacedRun .both).result = .ok (.succeeded "/w/s.py" "python") := by
    decide +kernel
  have hdocument : spacedTree.find true (Path.text (Path.ofText "s.gpt")) =
      .ok (["w", "s.gpt"], some (.file [])) := by decide +kernel
  have hencode (e : LineEnd) : Utf8.encode (spacedText.withLineEnds e) =
      .ok (sampleOctets (spacedText.withLineEnds e)) := by
    cases e <;> decide +kernel
  obtain ⟨hrequests, -, hartifact, -⟩ :=
    @line_ends_are_irrelevant sampleConfig (sampleService "\x7b\"content\": \"x\"\x7d") []
      spacedTree _ _ spacedText _ _ _ .both .carriageReturn (by decide +kernel) hdocument
      (hencode .both) (hencode .carriageReturn) 0
  exact ⟨by decide +kernel, hresult, hrequests, hartifact _ _ hresult⟩

end Pipeline

end ProseCompiler
