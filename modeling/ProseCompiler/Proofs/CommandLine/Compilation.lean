import ProseCompiler.Proofs.CommandLine.Lines
import ProseCompiler.Proofs.CommandLine.Steps
import ProseCompiler.Proofs.Pipeline.Outcomes

/-!
# What a compilation comes to

`Compilation` says what a session that compiles one document can come to, stage by stage:
the lines that it has to print, and the ending that it has if all of them can be shown.
There is one for every session whose service does not ask to stop (`exists_compilation`).
`Program.result_carryOut` is the result of the program: that of the ending, unless a line
comes before it that cannot be shown.
-/

namespace ProseCompiler

/-! ## Stages -/

/-- How a compilation ends if all of its lines can be shown. -/
inductive Ending where
  | stopped (fault : Fault)
  | refused
  | reported (outcome : Outcome)

/-- What setting up the logbook of a session does. -/
def Program.openedLogbook (surroundings : Surroundings) (config : Config) (tree : Tree) :
    Logbook.Step :=
  Logbook.setUp {} surroundings.moment [] config.effectiveLogLevel config.logFile config.jsonLogs
    tree

/-- A session on a tree behind the set-up of its logbook. -/
def Session.begun (step : Logbook.Step) : Session where
  tree := step.tree
  logbook := step.logbook
  errors := step.console.flatMap (· ++ [Text.newline])

/-- The run of the pipeline on a document in a session. -/
def Session.compilation (surroundings : Surroundings) (config : Config) (step : Logbook.Step)
    (document : Location) : Pipeline.Run :=
  Pipeline.run config surroundings.service ((Session.begun step).observer surroundings.moment)
    surroundings.milliseconds [] step.tree (Path.ofLocation document)

section Stages

variable (surroundings : Surroundings) (tree : Tree) (invocation : Invocation) (file : Text)

/-- The configuration was read, and the log file was opened if one is asked for. -/
structure Begins (config : Config) (step : Logbook.Step) : Prop where
  configured : invocation.configuration surroundings.environment tree surroundings.program =
    .ok config
  opened : Program.openedLogbook surroundings config tree = step
  undisturbed : step.fault = none

/-- There is something where the document should be. -/
structure Finds (config : Config) (step : Logbook.Step) (document : Location) : Prop
    extends Begins surroundings tree invocation config step where
  resolved : step.tree.resolve (Path.ofText file) = .ok document
  present : step.tree.entryExists (Location.text document) = .ok true

/-- The lines that a compilation has to print and its ending, by the stage that it comes
to. -/
inductive Compilation : List CompileLine → Ending → Prop
  | unread {fault : Fault}
      (hconfig : invocation.configuration surroundings.environment tree surroundings.program =
        .error (.unexpected fault)) :
      Compilation [] (.stopped fault)
  | misconfigured {error : CompilerError}
      (hconfig : invocation.configuration surroundings.environment tree surroundings.program =
        .error (.reported error)) :
      Compilation [.refusal error.message] .refused
  | unlogged {config : Config} {fault : Fault}
      (hconfig : invocation.configuration surroundings.environment tree surroundings.program =
        .ok config)
      (hlog : (Program.openedLogbook surroundings config tree).fault = some fault) :
      Compilation [] (.stopped fault)
  | unresolved {config : Config} {step : Logbook.Step} {fault : Fault}
      (hbegins : Begins surroundings tree invocation config step)
      (hresolve : step.tree.resolve (Path.ofText file) = .error fault) :
      Compilation [] (.stopped fault)
  | unseen {config : Config} {step : Logbook.Step} {document : Location} {fault : Fault}
      (hbegins : Begins surroundings tree invocation config step)
      (hresolve : step.tree.resolve (Path.ofText file) = .ok document)
      (hexists : step.tree.entryExists (Location.text document) = .error fault) :
      Compilation [] (.stopped fault)
  | missing {config : Config} {step : Logbook.Step} {document : Location}
      (hbegins : Begins surroundings tree invocation config step)
      (hresolve : step.tree.resolve (Path.ofText file) = .ok document)
      (hexists : step.tree.entryExists (Location.text document) = .ok false) :
      Compilation [.refusal ("File not found: " ++ Location.text document)] .refused
  | foreign {config : Config} {step : Logbook.Step} {document : Location}
      (hfinds : Finds surroundings tree invocation file config step document)
      (hextension : Text.endsWith (Location.name document) config.documentExtension = false) :
      Compilation [.refusal ("Only " ++ config.documentExtension ++ " files can be compiled")]
        .refused
  | invalid {config : Config} {step : Logbook.Step} {document : Location} {error : CompilerError}
      (hfinds : Finds surroundings tree invocation file config step document)
      (hextension : Text.endsWith (Location.name document) config.documentExtension = true)
      (hvalid : config.validate = .error error) :
      Compilation [.refusal error.message] .refused
  | compiled {config : Config} {step : Logbook.Step} {document : Location} {outcome : Outcome}
      (hfinds : Finds surroundings tree invocation file config step document)
      (hextension : Text.endsWith (Location.name document) config.documentExtension = true)
      (hvalid : config.validate = .ok ())
      (hrun : (Session.compilation surroundings config step document).result = .ok outcome) :
      Compilation [.announcement document, .report document outcome] (.reported outcome)
  | derailed {config : Config} {step : Logbook.Step} {document : Location} {fault : Fault}
      (hfinds : Finds surroundings tree invocation file config step document)
      (hextension : Text.endsWith (Location.name document) config.documentExtension = true)
      (hvalid : config.validate = .ok ())
      (hrun : (Session.compilation surroundings config step document).result =
        .error (.escaped fault)) :
      Compilation [.announcement document] (.stopped fault)

end Stages

section Existence

variable {surroundings : Surroundings} {tree : Tree} {invocation : Invocation}

theorem overlay_ne_interrupted {config : Config} (entries : List (Text × Json)) (message : Text) :
    (config.overlay entries).2 ≠ some (.interrupted message) := by
  induction entries generalizing config with
  | nil => simp [Config.overlay]
  | cons entry rest ih =>
    obtain ⟨name, value⟩ := entry
    rw [Config.overlay]
    split
    · exact ih
    · split
      · exact ih
      · next reason _ => cases reason <;> simp [Config.misfit]

theorem readFile_ne_interrupted {path : Text} (message : Text) :
    Config.readFile tree path ≠ .error (.interrupted message) := by
  rw [Config.readFile]
  split
  · simp
  · simp [Config.fileError]
  · split
    · simp
    · split <;> simp [Config.fileError]

/-- Reading a configuration does not ask to stop. -/
theorem configuration_ne_interrupted (message : Text) :
    invocation.configuration surroundings.environment tree surroundings.program ≠
      .error (.interrupted message) := by
  rw [Invocation.configuration]
  cases hload : Config.load surroundings.environment tree invocation.envFile
      surroundings.program with
  | error problem =>
    rw [Config.load] at hload
    split at hload
    · cases hload
      simp
    · split at hload <;> cases hload
      simp
  | ok config =>
    simp only
    split
    · simp
    · next path _ =>
      rw [Config.loadFile]
      cases hread : Config.readFile tree path with
      | error problem =>
        simp only [ne_eq, Except.error.injEq]
        rintro rfl
        exact readFile_ne_interrupted message hread
      | ok entries =>
        have hoverlay := @overlay_ne_interrupted config entries message
        simp only
        split
        · next hproblem =>
          rw [hproblem] at hoverlay
          simpa using hoverlay
        · simp

/-- Every compilation comes to something, if the service does not ask to stop. -/
theorem exists_compilation (tree : Tree) (invocation : Invocation) (file : Text)
    (hservice : ∀ earlier request, ¬(surroundings.service earlier request).IsInterruption) :
    ∃ lines ending, Compilation surroundings tree invocation file lines ending := by
  cases hconfig : invocation.configuration surroundings.environment tree surroundings.program with
  | error problem =>
    cases problem with
    | reported error => exact ⟨_, _, .misconfigured hconfig⟩
    | unexpected fault => exact ⟨_, _, .unread hconfig⟩
    | interrupted message => exact absurd hconfig (configuration_ne_interrupted message)
  | ok config =>
    cases hlog : (Program.openedLogbook surroundings config tree).fault with
    | some fault => exact ⟨_, _, .unlogged hconfig hlog⟩
    | none =>
      have hbegins : Begins surroundings tree invocation config _ := ⟨hconfig, rfl, hlog⟩
      cases hresolve : (Program.openedLogbook surroundings config tree).tree.resolve
          (Path.ofText file) with
      | error fault => exact ⟨_, _, .unresolved hbegins hresolve⟩
      | ok document =>
        cases hexists : (Program.openedLogbook surroundings config tree).tree.entryExists
            (Location.text document) with
        | error fault => exact ⟨_, _, .unseen hbegins hresolve hexists⟩
        | ok isThere =>
          cases isThere with
          | false => exact ⟨_, _, .missing hbegins hresolve hexists⟩
          | true =>
            have hfinds : Finds surroundings tree invocation file config _ document :=
              ⟨hbegins, hresolve, hexists⟩
            cases hextension : Text.endsWith (Location.name document) config.documentExtension with
            | false => exact ⟨_, _, .foreign hfinds hextension⟩
            | true =>
              cases hvalid : config.validate with
              | error error => exact ⟨_, _, .invalid hfinds hextension hvalid⟩
              | ok =>
                obtain ⟨outcome, hrun⟩ | ⟨fault, hrun⟩ :=
                  Pipeline.run_result config surroundings.service
                    ((Session.begun (Program.openedLogbook surroundings config tree)).observer
                      surroundings.moment) surroundings.milliseconds []
                    (Program.openedLogbook surroundings config tree).tree
                    (Path.ofLocation document) (hservice [])
                · exact ⟨_, _, .compiled hfinds hextension hvalid hrun⟩
                · exact ⟨_, _, .derailed hfinds hextension hvalid hrun⟩

end Existence

/-! ## The result of a compilation -/

/-- The result of an ending. -/
def Ending.result : Ending → Except Problem Nat
  | .stopped fault => .error (.unexpected fault)
  | .refused => .ok 1
  | .reported outcome => .ok outcome.status

/-- The result of an ending behind some lines: a line that cannot be shown comes first. -/
def Ending.behind (console : Console) (ending : Ending) : List CompileLine → Except Problem Nat
  | [] => ending.result
  | line :: rest =>
    match console line.text with
    | .error fault => .error (.unexpected fault)
    | .ok _ => ending.behind console rest

section Behind

variable {console : Console} {lines : List CompileLine} {ending : Ending}

theorem Ending.behind_of_shown (h : ∀ line ∈ lines, line.IsShown console) :
    ending.behind console lines = ending.result := by
  induction lines with
  | nil => rfl
  | cons line rest ih =>
    obtain ⟨shown, hshown⟩ := h line List.mem_cons_self
    rw [behind, hshown]
    exact ih fun other hother => h other (List.mem_cons_of_mem line hother)

theorem Ending.behind_of_not_shown (h : ∃ line ∈ lines, ¬line.IsShown console) :
    ∃ fault, ending.behind console lines = .error (.unexpected fault) := by
  induction lines with
  | nil =>
    obtain ⟨line, hline, -⟩ := h
    cases hline
  | cons line rest ih =>
    rw [behind]
    cases hshow : console line.text with
    | error fault => exact ⟨fault, rfl⟩
    | ok shown =>
      obtain ⟨other, hother, hhidden⟩ := h
      rcases List.mem_cons.mp hother with rfl | hother
      · exact absurd ⟨shown, hshow⟩ hhidden
      · exact ih ⟨other, hother, hhidden⟩

/-- No ending behind lines is a problem that the compiler expects. -/
theorem Ending.behind_cases (console : Console) (ending : Ending) (lines : List CompileLine) :
    (∃ code, ending.behind console lines = .ok code) ∨
      ∃ fault, ending.behind console lines = .error (.unexpected fault) := by
  by_cases h : ∃ line ∈ lines, ¬line.IsShown console
  · exact .inr (behind_of_not_shown h)
  · rw [behind_of_shown fun line hline => not_not.mp fun hhidden => h ⟨line, hline, hhidden⟩]
    cases ending with
    | stopped fault => exact .inr ⟨fault, rfl⟩
    | refused => exact .inl ⟨1, rfl⟩
    | reported outcome => exact .inl ⟨outcome.status, rfl⟩

end Behind

namespace Program

variable {surroundings : Surroundings} {tree : Tree} {invocation : Invocation} {file : Text}
  {config : Config} {step : Logbook.Step} {document : Location} {console : Console}
  {lines : List CompileLine} {ending : Ending}

/-- A line comes before what is printed behind it. -/
theorem result_line (line : CompileLine) {next : Unit → Program Nat} {session : Session}
    (h : ∀ shown, (result (next ()) (session.print shown)).1 = ending.behind console lines) :
    (result (say console line.text >>= next) session).1 =
      ending.behind console (line :: lines) := by
  rw [result_bind, result_say, Ending.behind]
  cases console line.text with
  | error fault => rfl
  | ok shown => exact h _

theorem result_refuse (console : Console) (message : Text) (session : Session) :
    (result (refuse console message) session).1 =
      Ending.refused.behind console [.refusal message] :=
  result_line (.refusal message) fun _ => rfl

/-- The pipeline is run on the tree of the session and its logbook. -/
theorem result_process {session : Session} (htree : session.tree = step.tree)
    (hlogbook : session.logbook = step.logbook) (hrequests : session.requests = []) :
    (result (process surroundings config document) session).1 =
      (Session.compilation surroundings config step document).result.mapError
        Pipeline.Halt.problem := by
  have hobserver : session.observer surroundings.moment =
      (Session.begun step).observer surroundings.moment := by
    unfold Session.observer Session.begun
    rw [hlogbook]
  rw [Session.compilation, process, result_bind, result_get]
  simp only [hobserver, htree, hrequests]
  rw [result_bind, result_set]
  simp only
  split
  · next hrun => rw [hrun]; rfl
  · next hrun => rw [hrun]; rfl

/-- What comes behind the pipeline goes on with its outcome, and is left out without one. -/
theorem result_process_bind {session : Session} {next : Outcome → Program Nat}
    {value : Except Problem Nat} (htree : session.tree = step.tree)
    (hlogbook : session.logbook = step.logbook) (hrequests : session.requests = [])
    (h : ∀ session', ((Session.compilation surroundings config step document).result.mapError
      Pipeline.Halt.problem).bind (fun outcome => (result (next outcome) session').1) = value) :
    (result (process surroundings config document >>= next) session).1 = value := by
  have hprocess := @result_process surroundings config step document session htree hlogbook
    hrequests
  rw [result_bind]
  generalize result (process surroundings config document) session = processed at hprocess
  obtain ⟨first, session'⟩ := processed
  cases hprocess
  rw [← h session']
  cases (Session.compilation surroundings config step document).result <;> rfl

/-- Setting up the logbook begins a session, unless it fails. -/
theorem result_setUpLogbook (surroundings : Surroundings) (config : Config) (tree : Tree) :
    result (setUpLogbook surroundings config) { tree } =
      ((match (openedLogbook surroundings config tree).fault with
        | some fault => .error (.unexpected fault)
        | none => .ok ()), Session.begun (openedLogbook surroundings config tree)) := by
  rw [setUpLogbook, result_bind, result_get]
  simp only
  rw [result_bind, result_set]
  simp only
  have hstep : ({} : Logbook).setUp surroundings.moment [] config.effectiveLogLevel config.logFile
      config.jsonLogs tree = openedLogbook surroundings config tree := rfl
  rw [hstep]
  cases (openedLogbook surroundings config tree).fault <;> rfl

theorem result_perform_of_error {problem : Problem}
    (h : invocation.configuration surroundings.environment tree surroundings.program =
      .error problem) (c : Command) :
    result (perform surroundings invocation c) { tree } = (.error problem, { tree }) := by
  rw [perform, result_bind, result_get]
  simp only [h]
  rfl

theorem result_perform_of_fault {fault : Fault}
    (hconfig : invocation.configuration surroundings.environment tree surroundings.program =
      .ok config)
    (hlog : (openedLogbook surroundings config tree).fault = some fault) (c : Command) :
    (result (perform surroundings invocation c) { tree }).1 = .error (.unexpected fault) := by
  rw [perform, result_bind, result_get]
  simp only [hconfig]
  rw [result_bind, result_setUpLogbook, hlog]

/-- A command is carried out in the session that the set-up has begun. -/
theorem result_perform_of_begins (h : Begins surroundings tree invocation config step)
    (c : Command) :
    result (perform surroundings invocation c) { tree } =
      result (command surroundings config c) (Session.begun step) := by
  obtain ⟨hconfig, rfl, hlog⟩ := h
  rw [perform, result_bind, result_get]
  simp only [hconfig]
  rw [result_bind, result_setUpLogbook, hlog]

/-! ### The command -/

section Compile

variable {session : Session}

theorem result_compile_unresolved {fault : Fault}
    (hresolve : session.tree.resolve (Path.ofText file) = .error fault) :
    (result (compile surroundings config file) session).1 = .error (.unexpected fault) := by
  rw [compile, result_bind, result_ask, hresolve]
  rfl

theorem result_compile_unseen {fault : Fault}
    (hresolve : session.tree.resolve (Path.ofText file) = .ok document)
    (hexists : session.tree.entryExists (Location.text document) = .error fault) :
    (result (compile surroundings config file) session).1 = .error (.unexpected fault) := by
  rw [compile, result_bind, result_ask, hresolve]
  simp only [Except.mapError]
  rw [result_bind, result_ask, hexists]
  rfl

theorem result_compile_missing
    (hresolve : session.tree.resolve (Path.ofText file) = .ok document)
    (hexists : session.tree.entryExists (Location.text document) = .ok false) :
    (result (compile surroundings config file) session).1 =
      Ending.refused.behind surroundings.console
        [.refusal ("File not found: " ++ Location.text document)] := by
  rw [compile, result_bind, result_ask, hresolve]
  simp only [Except.mapError]
  rw [result_bind, result_ask, hexists]
  exact result_refuse _ _ _

/-- The rest of a compilation, behind the checks of the document. -/
def compileChecked (surroundings : Surroundings) (config : Config) (document : Location) :
    Program Nat := do
  require config.validate
  say surroundings.console (CompileLine.announcement document).text
  let outcome ← process surroundings config document
  say surroundings.console (CompileLine.report document outcome).text
  return outcome.status

/-- The rest of a compilation, behind the search for the document: it is compiled or refused. -/
def compileFound (surroundings : Surroundings) (config : Config) (document : Location) :
    Program Nat :=
  if Text.endsWith (Location.name document) config.documentExtension then
    compileChecked surroundings config document
  else refuse surroundings.console ("Only " ++ config.documentExtension ++ " files can be compiled")

theorem result_compile_present
    (hresolve : session.tree.resolve (Path.ofText file) = .ok document)
    (hexists : session.tree.entryExists (Location.text document) = .ok true) :
    result (compile surroundings config file) session =
      result (compileFound surroundings config document) session := by
  rw [compile, result_bind, result_ask, hresolve]
  simp only [Except.mapError]
  rw [result_bind, result_ask, hexists]
  simp only [Except.mapError]
  rw [if_neg (by decide), compileFound]
  cases Text.endsWith (Location.name document) config.documentExtension <;> rfl

theorem result_compile_found
    (hfinds : Finds surroundings tree invocation file config step document) :
    result (compile surroundings config file) (Session.begun step) =
      result (compileFound surroundings config document) (Session.begun step) := by
  have hresolve : (Session.begun step).tree.resolve (Path.ofText file) = .ok document :=
    hfinds.resolved
  have hexists : (Session.begun step).tree.entryExists (Location.text document) = .ok true :=
    hfinds.present
  exact result_compile_present hresolve hexists

/-- A valid configuration announces the document, runs the pipeline, and reports its
outcome. -/
theorem result_compiled {outcome : Outcome} (hvalid : config.validate = .ok ())
    (hrun : (Session.compilation surroundings config step document).result = .ok outcome) :
    (result (compileChecked surroundings config document) (Session.begun step)).1 =
      (Ending.reported outcome).behind surroundings.console
        [.announcement document, .report document outcome] := by
  rw [compileChecked, result_bind, result_require, hvalid]
  refine result_line (.announcement document) fun shown => ?_
  refine result_process_bind rfl rfl rfl fun session => ?_
  rw [hrun]
  exact result_line (.report document outcome) fun _ => rfl

/-- A fault that comes out of the pipeline comes behind the announcement. -/
theorem result_derailed {fault : Fault} (hvalid : config.validate = .ok ())
    (hrun : (Session.compilation surroundings config step document).result =
      .error (.escaped fault)) :
    (result (compileChecked surroundings config document) (Session.begun step)).1 =
      (Ending.stopped fault).behind surroundings.console [.announcement document] := by
  rw [compileChecked, result_bind, result_require, hvalid]
  refine result_line (.announcement document) fun shown => ?_
  refine result_process_bind rfl rfl rfl fun session => ?_
  rw [hrun]
  rfl

end Compile

/-! ### The end -/

/-- The result of a command is the result of the program, if no expected problem ends it. -/
theorem result_carryOut_of_behind {session : Session} {c : Command}
    (h : (result (perform surroundings invocation c) session).1 =
      ending.behind surroundings.console lines) :
    (result (carryOut surroundings invocation c) session).1 =
      ending.behind surroundings.console lines := by
  rw [carryOut, result_tryCatch]
  generalize result (perform surroundings invocation c) session = performed at h
  obtain ⟨_, session'⟩ := performed
  rcases ending.behind_cases surroundings.console lines with ⟨code, hcode⟩ | ⟨fault, hfault⟩
  · rw [hcode] at h ⊢
    cases h
    rfl
  · rw [hfault] at h ⊢
    cases h
    rfl

/-- An expected problem is told, and refuses the command. -/
theorem result_carryOut_of_reported {session : Session} {c : Command} {error : CompilerError}
    (h : (result (perform surroundings invocation c) session).1 = .error (.reported error)) :
    (result (carryOut surroundings invocation c) session).1 =
      Ending.refused.behind surroundings.console [.refusal error.message] := by
  rw [carryOut, result_tryCatch]
  generalize result (perform surroundings invocation c) session = performed at h
  obtain ⟨_, session'⟩ := performed
  cases h
  exact result_refuse surroundings.console error.message session'

/-- The result of a compilation is that of its ending behind its lines. -/
theorem result_carryOut (h : Compilation surroundings tree invocation file lines ending) :
    (result (carryOut surroundings invocation (.compile file)) { tree }).1 =
      ending.behind surroundings.console lines := by
  cases h with
  | unread hconfig =>
    exact result_carryOut_of_behind (by rw [result_perform_of_error hconfig]; rfl)
  | misconfigured hconfig =>
    exact result_carryOut_of_reported (by rw [result_perform_of_error hconfig])
  | unlogged hconfig hlog =>
    exact result_carryOut_of_behind (result_perform_of_fault hconfig hlog _)
  | unresolved hbegins hresolve =>
    refine result_carryOut_of_behind ?_
    rw [result_perform_of_begins hbegins]
    exact result_compile_unresolved hresolve
  | unseen hbegins hresolve hexists =>
    refine result_carryOut_of_behind ?_
    rw [result_perform_of_begins hbegins]
    exact result_compile_unseen hresolve hexists
  | missing hbegins hresolve hexists =>
    refine result_carryOut_of_behind ?_
    rw [result_perform_of_begins hbegins]
    exact result_compile_missing hresolve hexists
  | foreign hfinds hextension =>
    refine result_carryOut_of_behind ?_
    rw [result_perform_of_begins hfinds.toBegins, command,
      result_compile_found hfinds, compileFound, if_neg (by simp [hextension]), result_refuse]
  | invalid hfinds hextension hvalid =>
    refine result_carryOut_of_reported ?_
    rw [result_perform_of_begins hfinds.toBegins, command,
      result_compile_found hfinds, compileFound, if_pos hextension, compileChecked, result_bind,
      result_require, hvalid]
    rfl
  | compiled hfinds hextension hvalid hrun =>
    refine result_carryOut_of_behind ?_
    rw [result_perform_of_begins hfinds.toBegins, command,
      result_compile_found hfinds, compileFound, if_pos hextension]
    exact result_compiled hvalid hrun
  | derailed hfinds hextension hvalid hrun =>
    refine result_carryOut_of_behind ?_
    rw [result_perform_of_begins hfinds.toBegins, command,
      result_compile_found hfinds, compileFound, if_pos hextension]
    exact result_derailed hvalid hrun

end Program

end ProseCompiler
