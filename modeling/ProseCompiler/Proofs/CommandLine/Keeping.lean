import ProseCompiler.Proofs.CommandLine.Compilation

/-!
# What a program keeps

A program keeps a property of sessions if the session has it after the program whenever it had
it before, be the result a value or a problem.  The parts of a program decide what it keeps:
`Keeps.bind` and `Keeps.tryCatch` put them together.

`KeptByWork` lists the few parts of compiling and watching that touch anything but the outputs;
a property that they keep is kept by both commands, and so it holds at the end of the session
(`keeps_compile`, `keeps_watch` and `holds_at_end`).
-/

namespace ProseCompiler

namespace Program

variable {α β : Type} {P : Session → Prop}

/-- Whatever comes of a program, a property of the session stays. -/
def Keeps (P : Session → Prop) (program : Program α) : Prop :=
  ∀ session, P session → P (result program session).2

/-- What holds behind the first part of a program holds behind the program, if the rest keeps it. -/
theorem holds_bind {first : Program α} {next : α → Program β} {session : Session}
    (hfirst : P (result first session).2) (hnext : ∀ value, Keeps P (next value)) :
    P (result (first >>= next) session).2 := by
  rw [result_bind]
  generalize result first session = between at hfirst
  obtain ⟨_ | value, session'⟩ := between
  · exact hfirst
  · exact hnext value session' hfirst

/-- What holds behind a program holds once its problem is handled, if the handler keeps it. -/
theorem holds_tryCatch {program : Program α} {handler : Problem → Program α} {session : Session}
    (hprogram : P (result program session).2) (hhandler : ∀ problem, Keeps P (handler problem)) :
    P (result (tryCatch program handler) session).2 := by
  rw [result_tryCatch]
  generalize result program session = between at hprogram
  obtain ⟨problem | value, session'⟩ := between
  · exact hhandler problem session' hprogram
  · exact hprogram

namespace Keeps

theorem pure (value : α) : Keeps P (Pure.pure value : Program α) := fun _ h => h

theorem throw (problem : Problem) : Keeps P (MonadExcept.throw problem : Program α) :=
  fun _ h => h

theorem bind {first : Program α} {next : α → Program β} (hfirst : Keeps P first)
    (hnext : ∀ value, Keeps P (next value)) : Keeps P (first >>= next) :=
  fun session h => holds_bind (hfirst session h) hnext

theorem tryCatch {program : Program α} {handler : Problem → Program α} (hprogram : Keeps P program)
    (hhandler : ∀ problem, Keeps P (handler problem)) :
    Keeps P (MonadExcept.tryCatch program handler) :=
  fun session h => holds_tryCatch (hprogram session h) hhandler

/-- A program that looks at the session first is told of the session that it starts from. -/
theorem get_bind {next : Session → Program β}
    (h : ∀ session, P session → P (result (next session) session).2) :
    Keeps P (get >>= next) := fun session hsession => h session hsession

/-- A program that sets the session first goes on from there. -/
theorem set_bind {session' : Session} {next : Unit → Program β} (hset : P session')
    (hnext : Keeps P (next ())) (session : Session) :
    P (result (set session' >>= next) session).2 :=
  hnext session' hset

theorem modify {f : Session → Session} (h : ∀ session, P session → P (f session)) :
    Keeps P (modify f : Program Unit) := fun session hsession => h session hsession

theorem ask (question : Tree → Except Fault α) : Keeps P (Program.ask question) := by
  intro session h
  rw [result_ask]
  exact h

/-- What is behind a check counts only if the check is passed. -/
theorem require_bind {check : Except CompilerError Unit} {next : Unit → Program β}
    (h : check = .ok () → Keeps P (next ())) : Keeps P (require check >>= next) := by
  intro session hsession
  rw [result_bind, result_require]
  cases check with
  | error error => exact hsession
  | ok => exact h rfl session hsession

theorem ite {p : Prop} [Decidable p] {first second : Program α} (hfirst : Keeps P first)
    (hsecond : Keeps P second) : Keeps P (if p then first else second) := by
  split
  · exact hfirst
  · exact hsecond

/-- Printing touches the output alone. -/
theorem say (hprint : ∀ session t, P session → P (session.print t)) (console : Console)
    (markup : Text) : Keeps P (Program.say console markup) := by
  intro session h
  rw [result_say]
  split
  · exact hprint _ _ h
  · exact h

theorem refuse (hprint : ∀ session t, P session → P (session.print t)) (console : Console)
    (message : Text) : Keeps P (Program.refuse console message) :=
  (say hprint _ _).bind fun _ => pure 1

end Keeps

/-! ## The commands that compile -/

/-- Printing keeps a property, and so do the parts of compiling and watching that touch the files,
the clients or the requests, and what others do to the files meanwhile; these count only if the
configuration is accepted. -/
structure KeptByWork (surroundings : Surroundings) (config : Config) (P : Session → Prop) :
    Prop where
  print : ∀ session t, P session → P (session.print t)
  process : config.validate = .ok () → ∀ document, Keeps P (process surroundings config document)
  openClient : config.validate = .ok () → ∀ session, P session →
    P { session with clients := session.clients ++ [config.requestTimeout] }
  note : config.validate = .ok () → ∀ session entry, P session →
    P (session.note surroundings.moment entry)
  beginRun : config.validate = .ok () → ∀ watching run,
    Keeps P (beginRun surroundings config watching run)
  endRun : config.validate = .ok () → ∀ run, Keeps P (endRun surroundings run)
  edit : config.validate = .ok () → ∀ session tree, P session → P { session with tree }

variable {surroundings : Surroundings} {config : Config}

theorem keeps_compile (h : KeptByWork surroundings config P) (file : Text) :
    Keeps P (compile surroundings config file) := by
  rw [compile]
  refine (Keeps.ask _).bind fun document => (Keeps.ask _).bind fun isThere => ?_
  refine .ite (.refuse h.print _ _) (.ite (.refuse h.print _ _) (.require_bind fun hvalid => ?_))
  refine (Keeps.say h.print _ _).bind fun _ => (h.process hvalid document).bind fun outcome => ?_
  exact (Keeps.say h.print _ _).bind fun _ => .pure _

/-- Does what one report of a watcher asks for. -/
def followOne (surroundings : Surroundings) (config : Config) (watching : Watching) :
    Watcher.Report → Program Watching
  | .entry entry => do
    modify fun session => session.note surroundings.moment entry
    return watching
  | .called run => beginRun surroundings config watching run
  | .shown document outcome => do
    match surroundings.console (outcome.line document) with
    | .ok line => modify fun session => session.print (line ++ [Text.newline])
    | .error _ => pure ()
    return watching
  | _ => return watching

/-- Reports are followed one after the other. -/
theorem follow_cons (watching : Watching) (report : Watcher.Report) (rest : List Watcher.Report) :
    follow surroundings config watching (report :: rest) =
      followOne surroundings config watching report >>= fun watching =>
        follow surroundings config watching rest := by
  cases report with
  | shown document outcome =>
    rw [follow, followOne]
    cases surroundings.console (outcome.line document) <;> rfl
  | _ => rfl

section Watching

variable (h : KeptByWork surroundings config P) (hvalid : config.validate = .ok ())
include h hvalid

theorem keeps_followOne (watching : Watching) (report : Watcher.Report) :
    Keeps P (followOne surroundings config watching report) := by
  cases report with
  | entry entry =>
    exact (Keeps.modify fun session => h.note hvalid session entry).bind fun _ => .pure _
  | called run => exact h.beginRun hvalid watching run
  | shown document outcome =>
    rw [followOne]
    cases surroundings.console (outcome.line document) with
    | ok line => exact (Keeps.modify fun session => h.print session _).bind fun _ => .pure _
    | error fault => exact (Keeps.pure ()).bind fun _ => .pure _
  | _ => exact .pure _

theorem keeps_follow (watching : Watching) (reports : List Watcher.Report) :
    Keeps P (follow surroundings config watching reports) := by
  induction reports generalizing watching with
  | nil => exact .pure _
  | cons report rest ih =>
    rw [follow_cons]
    exact (keeps_followOne h hvalid watching report).bind ih

theorem keeps_settle (watching : Watching) :
    Keeps P (settle surroundings config watching) :=
  .get_bind fun session => keeps_follow h hvalid _ _ session

theorem keeps_endAt (watching : Watching) (index : Nat) :
    Keeps P (endAt surroundings config watching index) := by
  rw [endAt]
  split
  · exact .pure _
  · next next _ =>
    refine (h.endRun hvalid next).bind fun ending => ?_
    split
    · exact .pure _
    · exact keeps_settle h hvalid _

theorem keeps_happen (watching : Watching) (happening : Happening) :
    Keeps P (happen surroundings config watching happening) := by
  cases happening with
  | told notification =>
    rw [happen]
    refine .get_bind fun session hsession => ?_
    split
    · exact keeps_settle h hvalid _ session hsession
    · exact hsession
  | ended index => exact keeps_endAt h hvalid watching index
  | edited tree =>
    exact (Keeps.modify fun session => h.edit hvalid session tree).bind fun _ => .pure _

/-- What one thing that happens keeps, all that happens keeps. -/
theorem keeps_attend (watching : Watching) (happenings : List Happening) :
    Keeps P (attend surroundings config watching happenings) := by
  induction happenings generalizing watching with
  | nil => exact .pure _
  | cons happening rest ih => exact (keeps_happen h hvalid watching happening).bind ih

theorem keeps_finishRuns (count : Nat) (watching : Watching) :
    Keeps P (finishRuns surroundings config count watching) := by
  induction count generalizing watching with
  | zero => exact .pure _
  | succ count ih =>
    rw [finishRuns]
    exact .ite (.pure _) ((keeps_endAt h hvalid watching 0).bind ih)

theorem keeps_windUp (watching : Watching) : Keeps P (windUp surroundings config watching) := by
  rw [windUp]
  generalize watching.watcher.stop = stopped
  obtain ⟨watcher, reports⟩ := stopped
  refine (keeps_follow h hvalid _ _).bind fun watching => ?_
  have hend (count : Nat) : Keeps P (finishRuns surroundings config count watching >>= fun _ =>
      say surroundings.console "[yellow]GPT Compiler stopped[/yellow]") :=
    (keeps_finishRuns h hvalid count watching).bind fun _ => .say h.print _ _
  exact .ite ((Keeps.say h.print _ _).bind fun _ => hend _) (hend _)

theorem foldl_note (entries : List Entry) {session : Session} (hsession : P session) :
    P (entries.foldl (fun session entry => session.note surroundings.moment entry) session) := by
  induction entries generalizing session with
  | nil => exact hsession
  | cons entry entries ih => exact ih (h.note hvalid session entry hsession)

theorem keeps_abandon (watcher : Watcher) : Keeps P (abandon surroundings config watcher) := by
  rw [abandon]
  refine .get_bind fun session hsession => ?_
  dsimp only
  generalize watcher.settle (Watching.setup surroundings.console config) session.tree = settled
  obtain ⟨_, reports⟩ := settled
  exact Keeps.modify (fun session => foldl_note h hvalid _) session hsession

end Watching

theorem keeps_watch (h : KeptByWork surroundings config P) (directory : Text) :
    Keeps P (watch surroundings config directory) := by
  rw [watch]
  refine (Keeps.ask _).bind fun root => (Keeps.ask _).bind fun isThere => ?_
  refine .ite (.refuse h.print _ _) (.require_bind fun hvalid => ?_)
  refine (Keeps.modify (h.openClient hvalid)).bind fun _ => .get_bind fun session hsession => ?_
  generalize (Watcher.new config.maxConcurrent).start (Watching.setup surroundings.console config)
    session.tree .never (Path.ofLocation root) = launched
  obtain ⟨⟨watcher, reports⟩, started⟩ := launched
  refine Keeps.bind (keeps_follow h hvalid _ _) (fun watching => ?_) session hsession
  have hgreeting : Keeps P (say surroundings.console ("[dim]Watching for " ++
      config.documentExtension ++ " files in: " ++ Location.text root ++ "[/dim]") >>= fun _ =>
        say surroundings.console
          "[bold cyan]GPT Compiler is running. Press Ctrl+C to stop.[/bold cyan]") :=
    (Keeps.say h.print _ _).bind fun _ => .say h.print _ _
  refine Keeps.bind (.tryCatch ?_ fun problem => ?_) fun _ =>
    (keeps_settle h hvalid watching).bind fun watching =>
      (keeps_attend h hvalid watching _).bind fun watching =>
        (keeps_windUp h hvalid watching).bind fun _ => .pure 0
  · cases started with
    | error problem => exact (Keeps.throw problem).bind fun _ => hgreeting
    | ok => exact hgreeting
  · exact (keeps_abandon h hvalid watcher).bind fun _ => .throw problem

/-! ## The whole session -/

theorem keeps_recover (hprint : ∀ session t, P session → P (session.print t)) (console : Console)
    (problem : Problem) : Keeps P (recover console problem) := by
  cases problem with
  | interrupted message => exact (Keeps.say hprint _ _).bind fun _ => .pure 0
  | reported error => exact .refuse hprint _ _
  | unexpected fault => exact .throw _

/-- A command is one that compiles, as against one that makes a new document. -/
def Compiles : Command → Prop
  | .compile _ | .watch _ => True
  | .new .. => False

theorem keeps_command (h : KeptByWork surroundings config P) {c : Command}
    (hcompiles : Compiles c) : Keeps P (command surroundings config c) := by
  cases c with
  | compile file => exact keeps_compile h file
  | watch directory => exact keeps_watch h directory
  | new file language => exact hcompiles.elim

/-- What holds once the logbook is set up and is kept by the work holds at the end. -/
theorem holds_at_end {tree : Tree} {invocation : Invocation} {c : Command}
    (hconfig : invocation.configuration surroundings.environment tree surroundings.program =
      .ok config)
    (hcompiles : Compiles c) (h : KeptByWork surroundings config P)
    (hbegun : P (Session.begun (openedLogbook surroundings config tree))) :
    P (result (carryOut surroundings invocation c) { tree }).2 := by
  have hperform : P (result (perform surroundings invocation c) { tree }).2 := by
    rw [perform, result_bind, result_get]
    simp only [hconfig]
    rw [result_bind, result_setUpLogbook]
    cases (openedLogbook surroundings config tree).fault with
    | some fault => exact hbegun
    | none => exact keeps_command h hcompiles _ hbegun
  exact holds_tryCatch hperform (keeps_recover h.print _)

/-- Without a configuration, only the outputs are touched. -/
theorem holds_at_end_of_error {tree : Tree} {invocation : Invocation} {problem : Problem}
    (hconfig : invocation.configuration surroundings.environment tree surroundings.program =
      .error problem)
    (hprint : ∀ session t, P session → P (session.print t)) (c : Command) (hstart : P { tree }) :
    P (result (carryOut surroundings invocation c) { tree }).2 := by
  refine holds_tryCatch ?_ (keeps_recover hprint _)
  rw [result_perform_of_error hconfig]
  exact hstart

end Program

end ProseCompiler
