import ProseCompiler.CommandLine.Commands
import ProseCompiler.Watch.Schedule

/-!
# Watching

The command that watches a directory until it is asked to stop.  The documents that are there
already are compiled, and those that the file system tells of; open compilations may end in any
order, and the files may change at any time.  Asked to stop, the program ends when the last
compilation is done.
-/

namespace ProseCompiler

/-- A compilation that was begun and has not ended: its run, and what it ends with as soon as its
turn comes, an outcome or what the answer to its request makes of it. -/
inductive OpenRun where
  | waiting (run : Watcher.Run) (pending : Pipeline.Pending) (answer : Answer)
  | done (run : Watcher.Run) (outcome : Outcome)

namespace OpenRun

def run : OpenRun → Watcher.Run
  | .waiting run _ _ | .done run _ => run

end OpenRun

/-- A watcher at work, with the compilations that are open, oldest first. -/
structure Watching where
  watcher : Watcher
  running : List OpenRun := []

namespace Watching

/-- What a watcher of the program is set up with.  Outcomes are printed, which fails if their text
is not well written. -/
def setup (console : Console) (config : Config) : Watcher.Setup where
  extension := config.documentExtension
  scansFirst := config.initialScan
  display := some fun document outcome =>
    match console (outcome.line document) with
    | .ok _ => none
    | .error fault => some fault

end Watching

namespace Program

/-- The run of a document begins: it comes as far as it can without the service. -/
def beginRun (surroundings : Surroundings) (config : Config) (watching : Watching)
    (run : Watcher.Run) : Program Watching := do
  let session ← get
  let part := Pipeline.start config (session.observer surroundings.moment) session.tree
    (Path.ofLocation run.document)
  let session := { session with tree := part.tree }.showJournal surroundings.moment part.journal
  match part.result with
  | .error halt =>
    set session
    throw halt.problem
  | .ok (.done outcome) =>
    set session
    return { watching with running := watching.running ++ [.done run outcome] }
  | .ok (.waiting pending) =>
    let answer := surroundings.service session.requests pending.request
    set { session with requests := session.requests ++ [pending.request] }
    return { watching with running := watching.running ++ [.waiting run pending answer] }

/-- The open compilation ends.  A fault that comes out of it is left to the watcher. -/
def endRun (surroundings : Surroundings) : OpenRun → Program Watcher.Ending
  | .done _ outcome => return .returned outcome
  | .waiting _ pending answer => do
    let session ← get
    let part := Pipeline.finish (session.observer surroundings.moment) surroundings.milliseconds
      session.tree pending answer
    set ({ session with tree := part.tree }.showJournal surroundings.moment part.journal)
    match part.result with
    | .ok outcome => return .returned outcome
    | .error (.escaped fault) => return .raised fault
    | .error (.asked message) => throw (.interrupted message)

/-- Does what the reports of a watcher ask for: entries are noted, outcomes printed, and the
compilations that were called begin. -/
def follow (surroundings : Surroundings) (config : Config) (watching : Watching) :
    List Watcher.Report → Program Watching
  | [] => return watching
  | report :: rest => do
    let watching ← match report with
      | .entry entry => do
        modify fun session => session.note surroundings.moment entry
        pure watching
      | .called run => beginRun surroundings config watching run
      | .shown document outcome => do
        match surroundings.console (outcome.line document) with
        | .ok line => modify fun session => session.print (line ++ [Text.newline])
        | .error _ => pure ()
        pure watching
      | _ => pure watching
    follow surroundings config watching rest

/-- Lets a watcher do everything that is ready. -/
def settle (surroundings : Surroundings) (config : Config) (watching : Watching) :
    Program Watching := do
  let setup := Watching.setup surroundings.console config
  let (watcher, reports) := watching.watcher.settle setup (← get).tree
  follow surroundings config { watching with watcher } reports

/-- Lets an open compilation end, and the watcher go on. -/
def endAt (surroundings : Surroundings) (config : Config) (watching : Watching) (index : Nat) :
    Program Watching :=
  match watching.running[index]? with
  | none => return watching
  | some next => do
    let ending ← endRun surroundings next
    let running := watching.running.eraseIdx index
    match watching.watcher.finish next.run.document ending with
    | none => return { watching with running }
    | some watcher => settle surroundings config { watcher, running }

/-- Goes on with one thing that happens. -/
def happen (surroundings : Surroundings) (config : Config) (watching : Watching) :
    Happening → Program Watching
  | .told notification => do
    let root := watching.watcher.root.getD []
    match notification.event? (← get).tree.workingDirectory root with
    | .ok (some (kind, path)) =>
      settle surroundings config
        { watching with watcher := watching.watcher.enqueue kind path }
    | _ => return watching
  | .ended index => endAt surroundings config watching index
  | .edited tree => do
    modify fun session => { session with tree }
    return watching

/-- Goes on with all that happens. -/
def attend (surroundings : Surroundings) (config : Config) (watching : Watching) :
    List Happening → Program Watching
  | [] => return watching
  | happening :: rest => do
    let watching ← happen surroundings config watching happening
    attend surroundings config watching rest

/-- Ends a number of open compilations, the oldest first. -/
def finishRuns (surroundings : Surroundings) (config : Config) :
    (count : Nat) → Watching → Program Unit
  | 0, _ => return
  | count + 1, watching =>
    if watching.running.isEmpty then return
    else do
      let watching ← endAt surroundings config watching 0
      finishRuns surroundings config count watching

/-- Stops a watcher and waits for the compilations that it has dispatched. -/
def windUp (surroundings : Surroundings) (config : Config) (watching : Watching) :
    Program Unit := do
  let (watcher, reports) := watching.watcher.stop
  let watching ← follow surroundings config { watching with watcher } reports
  let count := watcher.inFlight.length
  if count ≠ 0 then
    say surroundings.console
      ("[dim]Waiting for " ++ Text.ofNat count ++ " compilation(s) to finish...[/dim]")
  finishRuns surroundings config (count + watcher.dirty.length) watching
  say surroundings.console "[yellow]GPT Compiler stopped[/yellow]"

/-- The runs that a watcher has dispatched begin, but come no further. -/
def abandon (surroundings : Surroundings) (config : Config) (watcher : Watcher) :
    Program Unit := do
  let setup := Watching.setup surroundings.console config
  let (_, reports) := watcher.settle setup (← get).tree
  let begun := reports.filterMap fun
    | .called run => some (Pipeline.processing (Path.ofLocation run.document))
    | _ => none
  modify fun session =>
    begun.foldl (fun session entry => session.note surroundings.moment entry) session

/-- Watches a directory. -/
def watch (surroundings : Surroundings) (config : Config) (directory : Text) : Program Nat := do
  let root ← ask fun tree => tree.resolve (Path.ofText directory)
  let isThere ← ask fun tree => tree.isDirectory (Location.text root)
  if !isThere then
    refuse surroundings.console ("Directory not found: " ++ Location.text root)
  else do
    require config.validate
    modify fun session => { session with clients := session.clients ++ [config.requestTimeout] }
    let ((watcher, reports), started) := (Watcher.new config.maxConcurrent).start
      (Watching.setup surroundings.console config) (← get).tree .never (Path.ofLocation root)
    let watching ← follow surroundings config { watcher } reports
    try
      match started with
      | .error problem => throw problem
      | .ok () => pure ()
      say surroundings.console ("[dim]Watching for " ++ config.documentExtension ++ " files in: " ++
        Location.text root ++ "[/dim]")
      say surroundings.console
        "[bold cyan]GPT Compiler is running. Press Ctrl+C to stop.[/bold cyan]"
    catch problem =>
      abandon surroundings config watcher
      throw problem
    let watching ← settle surroundings config watching
    let watching ← attend surroundings config watching surroundings.happenings
    windUp surroundings config watching
    return 0

end Program

end ProseCompiler
