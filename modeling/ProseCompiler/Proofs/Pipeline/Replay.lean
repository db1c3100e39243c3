import ProseCompiler.Proofs.Document.Target
import ProseCompiler.Proofs.Files.Undisturbed
import ProseCompiler.Proofs.Pipeline.Course

/-!
# The same run in another tree

A run looks at its document and at the way to its artifact.  In a tree without
links where both are undisturbed, it sends the same request, ends with the same
result and changes the tree in the same way: `run_replays`.  The artifact must be
within reach of directories that can be made at once (`IsWithinReach`), since more
of them may be there in the other tree.

The document alone can make a difference, and only if it is missing and one of its
names is too long: see `load_undisturbed`.
-/

namespace ProseCompiler

/-! ## Targets -/

/-- Trees without links give a document the same target. -/
theorem Target.resolve_congr {tree other : Tree} (hfree : tree.LinkFree) (hfree' : other.LinkFree)
    (hworking : other.workingDirectory = tree.workingDirectory) (document : Document)
    (path : Path) (defaultLanguage : Text) :
    resolve other document path defaultLanguage = resolve tree document path defaultLanguage := by
  simp only [resolve, outputOf, Tree.resolve_congr hfree hfree' hworking]

namespace Pipeline

variable {config : Config} {tree other : Tree} {place output : Location} {code : Text}

/-! ## Loading -/

/-- The problem of a document that the system refuses to read. -/
def refusal (error : SystemError) (place : Location) : Problem :=
  .reported (.unreadable (Location.text place)
    (Fault.message (.system error (Location.text place))))

/-- An undisturbed document is loaded as before, unless it is missing and has a
name that is too long. -/
theorem load_undisturbed (config : Config) (hform : tree.WellFormed) (hfree : tree.LinkFree)
    (hfree' : other.LinkFree) (hworking : other.workingDirectory = tree.workingDirectory)
    (hclean : place.IsClean) (hplace : tree.Undisturbed other place) :
    load other config (Path.ofLocation place) = load tree config (Path.ofLocation place) ∨
      place.HasLongName ∧
        load tree config (Path.ofLocation place) = .error (refusal .noEntry place) ∧
        load other config (Path.ofLocation place) = .error (refusal .nameTooLong place) := by
  have htext : (Path.ofLocation place).text = Location.text place := rfl
  rw [load, load, read, read, htext]
  rcases Tree.readText_undisturbed hform hfree hfree' hclean hplace with
    heq | ⟨hlong, hmissed, hrefused⟩
  · rw [heq]
    simp only [Target.resolve_congr hfree hfree' hworking]
    exact .inl trivial
  · rw [hmissed, hrefused]
    exact .inr ⟨hlong, rfl, rfl⟩

/-! ## Writing -/

theorem write_linkFree (hfree : tree.LinkFree) (output : Location) (code : Text) :
    (write tree output code).1.LinkFree := by
  have hmade := (Tree.ensureDirectory_adds tree (Location.parent output).reverse).linkFree hfree
  rcases write_changes tree output code with heq | ⟨place, old, octets, hopen, heq⟩
  · rwa [heq]
  · rw [heq]
    exact hmade.put (Tree.isLeaf_of_writable hopen).ne_nil (fun _ => by simp)

theorem write_workingDirectory (tree : Tree) (output : Location) (code : Text) :
    (write tree output code).1.workingDirectory = tree.workingDirectory := by
  have hadds := Tree.ensureDirectory_adds tree (Location.parent output).reverse
  rcases write_changes tree output code with heq | ⟨place, old, octets, -, heq⟩
  · rw [heq]
    exact hadds.workingDirectory_eq
  · rw [heq, Tree.workingDirectory_put]
    exact hadds.workingDirectory_eq

/-- The root is a directory, so no code is written to it. -/
theorem write_root (tree : Tree) (code : Text) :
    write tree [] code =
      (tree, .error (writeProblem [] (.system .isDirectory (Location.text [])))) := by
  have hopen : tree.writable (Location.text []) =
      .error (.system .isDirectory (Location.text [])) := by
    have hcheck : Tree.checkPath (Location.text []) = .ok () := by decide
    rw [Tree.writable, hcheck, Tree.find_text_nil]
  have hensure : tree.ensureDirectory (Location.parent []).reverse = (tree, .ok ()) := rfl
  rw [write_of_directory_ok hensure]
  simp only [Tree.writeText, hopen, Except.mapError]

/-- An undisturbed place below a provided directory is opened as before. -/
theorem writable_congr {directory : Location} {name : Text} {u u' : Tree}
    (hform : tree.WellFormed) (hform' : other.WellFormed) (hfree : tree.LinkFree)
    (hfree' : other.LinkFree) (hclean : (directory ++ [name]).IsClean)
    (hensure : tree.ensureDirectory directory.reverse = (u, .ok ()))
    (hensure' : other.ensureDirectory directory.reverse = (u', .ok ()))
    (hsame : other.node? (directory ++ [name]) = tree.node? (directory ++ [name])) :
    u'.writable (Location.text (directory ++ [name])) =
      u.writable (Location.text (directory ++ [name])) := by
  have hmade := (Tree.makeAll_of_ensureDirectory hensure).2
  have hmade' := (Tree.makeAll_of_ensureDirectory hensure').2
  rw [Tree.writable, Tree.writable, Tree.find_below_provided hform hfree hclean hmade,
    Tree.find_below_provided hform' hfree' hclean hmade', hsame]

/-- Code for an undisturbed place is written as before. -/
theorem write_replays (hform : tree.WellFormed) (hform' : other.WellFormed)
    (hfree : tree.LinkFree) (hfree' : other.LinkFree) (hclean : output.IsClean)
    (houtput : tree.Undisturbed other output) (hreach : IsWithinReach tree output) (code : Text) :
    (write other output code).2 = (write tree output code).2 ∧
      tree.Replays (write tree output code).1 other (write other output code).1 := by
  cases output using List.reverseRecOn with
  | nil =>
    rw [write_root, write_root]
    exact ⟨rfl, .refl tree other⟩
  | append_singleton directory name =>
    have hparent : Location.parent (directory ++ [name]) = directory := List.dropLast_concat
    have hgrown := houtput.grown.above (List.prefix_append directory [name])
    have hmade := Tree.makeAll_replays hform hform' hfree hfree' hclean.of_append hgrown
    have hresult := Tree.makeAll_congr hform hform' hfree hfree' hclean.of_append
      (fun _ hq => hgrown.isFileAt hq)
    have hadds := Tree.ensureDirectory_adds tree directory.reverse
    rw [IsWithinReach, hparent] at hreach
    have hreach' := Tree.not_isRemote_grown hform hfree hfree' hclean.of_append hgrown hreach
    rw [← Tree.ensureDirectory_of_not_isRemote hreach,
      ← Tree.ensureDirectory_of_not_isRemote hreach'] at hmade hresult
    rcases hensure : tree.ensureDirectory directory.reverse with ⟨u, fault | _⟩ <;>
      rcases hensure' : other.ensureDirectory directory.reverse with ⟨u', fault' | _⟩ <;>
      rw [hensure] at hresult hmade hadds <;> rw [hensure'] at hresult hmade <;> cases hresult <;>
      rw [← hparent] at hensure hensure'
    · rw [write_of_directory_error hensure, write_of_directory_error hensure']
      exact ⟨rfl, hmade⟩
    · rw [write_of_directory_ok hensure, write_of_directory_ok hensure']
      rw [hparent] at hensure hensure'
      have hopen := writable_congr hform hform' hfree hfree' hclean hensure hensure' houtput.same
      have hplace : ∀ place old, u.writable (Location.text (directory ++ [name])) =
          .ok (place, old) → other.node? place = tree.node? place := by
        intro place old hwritable
        obtain ⟨n, hfind⟩ := Tree.find_of_writable hwritable
        rw [Tree.find_place (hadds.linkFree hfree) hclean hfind]
        exact houtput.same
      obtain ⟨hwrite, hreplays⟩ := Tree.writeText_replays hmade hopen hplace code
      exact ⟨congrArg (Except.mapError (writeProblem (directory ++ [name]))) hwrite, hreplays⟩

/-- Writing code changes the place that it is for, and what lies on the way there. -/
theorem write_changesAlong (hform : tree.WellFormed) (hfree : tree.LinkFree)
    (hclean : output.IsClean) (code : Text) :
    tree.ChangesAlong (write tree output code).1 output := by
  have hmade : tree.ChangesAlong
      (tree.ensureDirectory (Location.parent output).reverse).1 output := by
    intro q hq
    by_cases hremote : tree.IsRemote (Location.parent output).reverse
    · rw [Tree.ensureDirectory_of_isRemote hremote] at hq
      exact absurd rfl hq
    rw [Tree.ensureDirectory_of_not_isRemote hremote] at hq ⊢
    obtain ⟨hnew, hold⟩ := Tree.node?_makeAll hform hfree hclean.parent q
    by_cases hprovided : tree.IsProvided (Location.parent output) q
    · exact ⟨hprovided.1.trans (List.dropLast_prefix output),
        .inr ⟨hprovided.2.2, hnew hprovided⟩⟩
    · exact absurd (hold hprovided) hq
  rcases write_changes tree output code with heq | ⟨place, old, octets, hopen, heq⟩
  · rwa [heq]
  · obtain ⟨n, hfind⟩ := Tree.find_of_writable hopen
    have hadds := Tree.ensureDirectory_adds tree (Location.parent output).reverse
    obtain rfl := Tree.find_place (hadds.linkFree hfree) hclean hfind
    intro q hq
    rw [heq, Tree.node?_put (Tree.isLeaf_of_writable hopen).ne_nil] at hq ⊢
    by_cases hplace : q = place
    · exact ⟨hplace ▸ List.prefix_refl q, .inl hplace⟩
    · rw [if_neg hplace] at hq ⊢
      exact hmade q hq

/-! ## The whole run -/

/-- The file for the code of a document, if the document can be loaded. -/
def artifact? (config : Config) (tree : Tree) (place : Location) : Option Location :=
  match load tree config (Path.ofLocation place) with
  | .error _ => none
  | .ok (_, target) => some target.output

theorem artifact?_of_load {parsed : Document} {target : Target}
    (hload : load tree config (Path.ofLocation place) = .ok (parsed, target)) :
    artifact? config tree place = some target.output := by
  rw [artifact?, hload]

theorem artifact?_isClean (hform : tree.WellFormed)
    (h : artifact? config tree place = some output) : output.IsClean := by
  rw [artifact?] at h
  split at h
  · cases h
  · next parsed target hload =>
    cases h
    obtain ⟨text, -, -, hresolve⟩ := resolved_of_load hload
    exact Target.resolve_isClean (hform.isClean hform.workingDirectory_isDirectory) hresolve

section Run

variable {answer : Request → Answer} {earlier : List Request} {tree' : Tree}
  {requests : List Request} {result : Except Halt Outcome}

/-- All that a run does to a tree is to write the artifact. -/
theorem Course.tree_cases {service : Service}
    (hcourse : Course config service earlier tree (Path.ofLocation place) tree' requests result) :
    tree' = tree ∨ ∃ output code, artifact? config tree place = some output ∧
      tree' = (write tree output code).1 := by
  cases hcourse with
  | unread | unsent | unanswered => exact .inl rfl
  | unwritten hload _ _ hwrite => exact .inr ⟨_, _, artifact?_of_load hload, by rw [hwrite]⟩
  | written hload _ _ hwrite => exact .inr ⟨_, _, artifact?_of_load hload, by rw [hwrite]⟩

/-- The artifact of a document is written as before if its place is undisturbed. -/
theorem write_artifact_replays {parsed : Document} {target : Target} {written : Except Problem Unit}
    (hform : tree.WellFormed) (hform' : other.WellFormed) (hfree : tree.LinkFree)
    (hfree' : other.LinkFree)
    (houtput : ∀ output, artifact? config tree place = some output →
      tree.Undisturbed other output)
    (hreach : ∀ output, artifact? config tree place = some output → IsWithinReach tree output)
    (hload : load tree config (Path.ofLocation place) = .ok (parsed, target))
    (hwrite : write tree target.output code = (tree', written)) :
    ∃ other', write other target.output code = (other', written) ∧
      tree.Replays tree' other other' := by
  have hartifact := artifact?_of_load hload
  obtain ⟨hresult, hreplays⟩ := write_replays hform hform' hfree hfree'
    (artifact?_isClean hform hartifact) (houtput _ hartifact) (hreach _ hartifact) code
  rw [hwrite] at hresult hreplays
  exact ⟨_, Prod.ext rfl hresult, hreplays⟩

/-- A document that is loaded as before, for an artifact whose place is undisturbed,
takes the same course. -/
theorem Course.replays
    (hcourse : Course config (fun _ => answer) [] tree (Path.ofLocation place) tree' requests
      result)
    (hform : tree.WellFormed) (hform' : other.WellFormed) (hfree : tree.LinkFree)
    (hfree' : other.LinkFree)
    (hload : load other config (Path.ofLocation place) = load tree config (Path.ofLocation place))
    (houtput : ∀ output, artifact? config tree place = some output →
      tree.Undisturbed other output)
    (hreach : ∀ output, artifact? config tree place = some output → IsWithinReach tree output) :
    ∃ other', Course config (fun _ => answer) earlier other (Path.ofLocation place) other'
      requests result ∧ tree.Replays tree' other other' := by
  cases hcourse with
  | unread hfirst => exact ⟨other, .unread (hload.trans hfirst), .refl tree other⟩
  | unsent hfirst hrequest =>
    exact ⟨other, .unsent (hload.trans hfirst) hrequest, .refl tree other⟩
  | unanswered hfirst hrequest hcode =>
    exact ⟨other, .unanswered (hload.trans hfirst) hrequest hcode, .refl tree other⟩
  | unwritten hfirst hrequest hcode hwrite =>
    obtain ⟨other', hwrite', hreplays⟩ :=
      write_artifact_replays hform hform' hfree hfree' houtput hreach hfirst hwrite
    exact ⟨other', .unwritten (hload.trans hfirst) hrequest hcode hwrite', hreplays⟩
  | written hfirst hrequest hcode hwrite =>
    obtain ⟨other', hwrite', hreplays⟩ :=
      write_artifact_replays hform hform' hfree hfree' houtput hreach hfirst hwrite
    exact ⟨other', .written (hload.trans hfirst) hrequest hcode hwrite', hreplays⟩

variable (milliseconds : Nat)

/-- A run in another tree that loads the document as before, and where the place of
the artifact is undisturbed. -/
theorem run_replays (hform : tree.WellFormed) (hform' : other.WellFormed) (hfree : tree.LinkFree)
    (hfree' : other.LinkFree)
    (hload : load other config (Path.ofLocation place) = load tree config (Path.ofLocation place))
    (houtput : ∀ output, artifact? config tree place = some output →
      tree.Undisturbed other output)
    (hreach : ∀ output, artifact? config tree place = some output → IsWithinReach tree output) :
    (run config (fun _ => answer) .silent milliseconds earlier other
        (Path.ofLocation place)).requests =
      (run config (fun _ => answer) .silent milliseconds [] tree
        (Path.ofLocation place)).requests ∧
    (run config (fun _ => answer) .silent milliseconds earlier other
        (Path.ofLocation place)).result =
      (run config (fun _ => answer) .silent milliseconds [] tree
        (Path.ofLocation place)).result ∧
    tree.Replays
      (run config (fun _ => answer) .silent milliseconds [] tree (Path.ofLocation place)).tree
      other
      (run config (fun _ => answer) .silent milliseconds earlier other
        (Path.ofLocation place)).tree := by
  have hcourse := run_course config (fun _ => answer) milliseconds [] tree (Path.ofLocation place)
  obtain ⟨other', hcourse', hreplays⟩ :=
    hcourse.replays hform hform' hfree hfree' hload houtput hreach
  obtain ⟨htree, hrequests, hresult⟩ :=
    run_of_course config _ milliseconds earlier other (Path.ofLocation place) hcourse'
  rw [htree]
  exact ⟨hrequests, hresult, hreplays⟩

variable {service : Service}

theorem run_linkFree (hfree : tree.LinkFree) :
    (run config service .silent milliseconds earlier tree
      (Path.ofLocation place)).tree.LinkFree := by
  rcases (run_course config service milliseconds earlier tree (Path.ofLocation place)).tree_cases
    with heq | ⟨output, code, -, heq⟩
  · rwa [heq]
  · rw [heq]
    exact write_linkFree hfree output code

theorem run_workingDirectory :
    (run config service .silent milliseconds earlier tree
      (Path.ofLocation place)).tree.workingDirectory = tree.workingDirectory := by
  rcases (run_course config service milliseconds earlier tree (Path.ofLocation place)).tree_cases
    with heq | ⟨output, code, -, heq⟩
  · rw [heq]
  · rw [heq, write_workingDirectory]

/-- What a run changes lies on the way to the artifact. -/
theorem run_changesAlong (hform : tree.WellFormed) (hfree : tree.LinkFree) {q : Location}
    (hq : (run config service .silent milliseconds earlier tree
      (Path.ofLocation place)).tree.node? q ≠ tree.node? q) :
    ∃ output, artifact? config tree place = some output ∧ q <+: output ∧
      (q = output ∨ tree.node? q = none ∧
        (run config service .silent milliseconds earlier tree
          (Path.ofLocation place)).tree.node? q = some .directory) := by
  rcases (run_course config service milliseconds earlier tree (Path.ofLocation place)).tree_cases
    with heq | ⟨output, code, hartifact, heq⟩
  · rw [heq] at hq
    exact absurd rfl hq
  · rw [heq] at hq ⊢
    exact ⟨output, hartifact,
      write_changesAlong hform hfree (artifact?_isClean hform hartifact) code q hq⟩

end Run

end Pipeline

end ProseCompiler
