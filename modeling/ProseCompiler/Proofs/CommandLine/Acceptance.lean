import ProseCompiler.Proofs.CommandLine.ExitStatus
import ProseCompiler.Proofs.Files.Names
import ProseCompiler.Proofs.Watch.Origins

/-!
# What is watched and what can be compiled

A watcher asks whether a path has the extension of documents before it resolves the path,
and `compile` asks whether the name of the place has it that a path resolves to.  The two
agree if the last component of the path is a name with the extension and no link stands
under it: `watched_names_pass_compile`.  Links further up do not matter.

They need not agree otherwise: `link_leads_to_another_name`.
-/

namespace ProseCompiler.Watcher

variable {setup : Setup} {tree : Tree} {root document : Location} {path : Text}

/-- A path with a name that is no link stands for a document of that name. -/
theorem name_of_documentAt (hname : Path.IsName (Path.ofText path).name)
    (hlink : ¬tree.NamesLink ((Path.ofLocation root).join (Path.ofText path)))
    (h : documentAt tree root path = .ok document) :
    Location.name document = (Path.ofText path).name := by
  obtain ⟨habsolute, hsame⟩ := Path.name_join root hname.1
  rw [← hsame] at hname ⊢
  exact Tree.name_of_resolve habsolute hname hlink h

/-- Every document that is compiled is what a path with the extension stands for that the
watcher was told of, seen from its root.  If the last component of the path is a name with
the extension and no link stands under it, the document has a name with the extension, and
`compile` does not refuse a file that resolves to it.  The last component is such a name
unless the extension is empty, a single dot or two dots, or has a slash. -/
theorem watched_names_pass_compile (setup : Setup) (bound : Int) (actions : List Action)
    {run : Run} (hrun : run ∈ calls (play setup (new bound) actions).2) :
    ∃ root tree path, (play setup (new bound) actions).1.root = some root ∧
      Origin setup actions root tree path run.document ∧
      (('/' : CodePoint) ∉ setup.extension → setup.extension ∉ [[], Path.here, Path.up] →
        (Path.ofText path).EndsWith setup.extension) ∧
      ((Path.ofText path).EndsWith setup.extension →
        ¬tree.NamesLink ((Path.ofLocation root).join (Path.ofText path)) →
        Text.endsWith (Location.name run.document) setup.extension = true ∧
          ∀ (surroundings : Surroundings) (config : Config) (file : Text) (session : Session),
            config.documentExtension = setup.extension →
            session.tree.resolve (Path.ofText file) = .ok run.document →
            session.tree.entryExists (Location.text run.document) = .ok true →
            Program.result (Program.compile surroundings config file) session =
              Program.result (Program.compileChecked surroundings config run.document) session) := by
  obtain ⟨root, tree, path, hroot, horigin⟩ := origin_of_called setup bound actions hrun
  refine ⟨root, tree, path, hroot, horigin, fun hslash hextension => ?_, fun hends hlink => ?_⟩
  · simp only [List.mem_cons, List.not_mem_nil, or_false, not_or] at hextension
    exact Path.ofText_endsWith hslash hextension.1 hextension.2.1 hextension.2.2 horigin.extension
  · have hname : Text.endsWith (Location.name run.document) setup.extension = true := by
      rw [name_of_documentAt hends.1 hlink horigin.resolved]
      exact hends.2
    refine ⟨hname, fun surroundings config file session hconfig hresolve hexists => ?_⟩
    rw [Program.result_compile_present hresolve hexists, Program.compileFound, hconfig,
      if_pos hname]

/-! ## A document and a link -/

/-- The document of the sample tree is what was told. -/
theorem added_document_passes_compile :
    ⟨0, sampleDocument⟩ ∈ calls (play sampleSetup (new 1) madeDirty).2 ∧
      Text.endsWith (Location.name sampleDocument) sampleSetup.extension = true ∧
      Program.result (Program.compile (Session.greetingSurroundings Session.workingService)
          Session.greetingConfig "/w/a.gpt") { tree := sampleTree } =
        Program.result (Program.compileChecked
          (Session.greetingSurroundings Session.workingService) Session.greetingConfig
          sampleDocument) { tree := sampleTree } := by
  have hrun : ⟨0, sampleDocument⟩ ∈ calls (play sampleSetup (new 1) madeDirty).2 := by
    decide +kernel
  obtain ⟨root, tree, path, hroot, ⟨htold, -, -⟩, hends, hpasses⟩ :=
    watched_names_pass_compile sampleSetup 1 madeDirty hrun
  have hplain : (Path.ofText path).EndsWith sampleSetup.extension :=
    hends (by decide) (by decide)
  obtain rfl : root = [("w" : Text)] := by
    have hsome : (play sampleSetup (new 1) madeDirty).1.root = some [("w" : Text)] := by
      decide +kernel
    exact Option.some.inj (hroot.symm.trans hsome)
  obtain ⟨rfl, rfl⟩ : tree = sampleTree ∧ path = "a.gpt" := by
    cases htold with
    | event hevent =>
      simp only [madeDirty, List.mem_cons, List.not_mem_nil, Action.event.injEq, reduceCtorEq,
        false_or, or_false] at hevent
      rcases hevent with ⟨rfl, -, rfl⟩ | ⟨rfl, -, rfl⟩ <;> exact ⟨rfl, rfl⟩
    | handedOver hevent => simp [madeDirty] at hevent
    | found hscans => cases hscans
  have hlink : ¬sampleTree.NamesLink
      ((Path.ofLocation ["w"]).join (Path.ofText "a.gpt")) := by
    rintro ⟨directory, place, target, hdirectory, hfound⟩
    have hreal : sampleTree.realPlace
        ((Path.ofLocation ["w"]).join (Path.ofText "a.gpt")).parent.text = .ok ["w"] := by
      decide +kernel
    cases hreal.symm.trans hdirectory
    have hfile : sampleTree.find false "/w/a.gpt" = .ok (sampleDocument, some (.file [])) := by
      decide +kernel
    cases hfile.symm.trans hfound
  obtain ⟨hname, hcompile⟩ := hpasses hplain hlink
  exact ⟨hrun, hname, hcompile _ _ _ _ rfl (by decide +kernel) (by decide +kernel)⟩

/-- A link with the extension of documents to a file without it, and a file and a directory
in another directory. -/
def linkedTree : Tree where
  entries := [(["w"], .directory), (["w", "notes.txt"], .file []),
    (["w", "a.gpt"], .link "notes.txt"), (["w", "a.d"], .directory), (["w", "a.d", "x"], .file [])]
  workingDirectory := ["w"]

/-- The addition of a path is told of, and the run of it begins. -/
def addition (path : Text) : List Action :=
  [.start linkedTree .never (Path.ofText "/w"), .event linkedTree added path, .job linkedTree 0]

/-- What `compile a.gpt` asks for. -/
def linkInvocation : Invocation :=
  { Session.greetingInvocation with command := some (.compile "a.gpt") }

/-- `compile` follows the link and refuses the file that it leads to. -/
theorem link_is_refused :
    (Session.run (Session.greetingSurroundings Session.workingService) linkedTree
      ["compile", "a.gpt"]).1 = .status 1 := by
  have hfinds : Finds (Session.greetingSurroundings Session.workingService) linkedTree
      linkInvocation "a.gpt" Session.greetingConfig
      (Program.openedLogbook (Session.greetingSurroundings Session.workingService)
        Session.greetingConfig linkedTree) ["w", "notes.txt"] :=
    ⟨⟨by rfl, rfl, by decide +kernel⟩, by decide +kernel, by decide +kernel⟩
  rw [Session.run_exit (by rfl : Invocation.parse ["compile", "a.gpt"] = .ok linkInvocation) rfl
    (.foreign hfinds (by decide +kernel)), Ending.behind_of_shown]
  · rfl
  · intro line hline
    apply CompileLine.isShown_of_ordinary Console.plain_followsMarkup
    revert line
    decide

/-- The watcher follows the link and compiles the file that it leads to.  It also compiles
what a path stands for that ends with an extension which has a slash, or is a single dot. -/
theorem link_leads_to_another_name :
    calls (play sampleSetup (new 0) (addition "a.gpt")).2 = [⟨0, ["w", "notes.txt"]⟩] ∧
      Text.endsWith (Location.name ["w", "notes.txt"]) sampleSetup.extension = false ∧
      (Session.run (Session.greetingSurroundings Session.workingService) linkedTree
        ["compile", "a.gpt"]).1 = .status 1 ∧
      calls (play { sampleSetup with extension := ".d/x" } (new 0) (addition "a.d/x")).2 =
        [⟨0, ["w", "a.d", "x"]⟩] ∧
      Text.endsWith (Location.name ["w", "a.d", "x"]) ".d/x" = false ∧
      calls (play { sampleSetup with extension := "." } (new 0) (addition "a.d/.")).2 =
        [⟨0, ["w", "a.d"]⟩] ∧
      Text.endsWith (Location.name ["w", "a.d"]) "." = false :=
  ⟨by decide +kernel, by decide +kernel, link_is_refused, by decide +kernel, by decide +kernel,
    by decide +kernel, by decide +kernel⟩

end ProseCompiler.Watcher
