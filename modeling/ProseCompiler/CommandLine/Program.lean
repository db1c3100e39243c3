import ProseCompiler.CommandLine.Configuration
import ProseCompiler.CommandLine.Watching

/-!
# The program

A session from its arguments to its exit.  Errors that the compiler expects are printed and give
the status 1; being interrupted is no error; a fault that nothing expects escapes.
-/

namespace ProseCompiler

/-- How a session ends: with a status, or with a problem that nothing caught. -/
inductive Exit where
  | status (code : Nat)
  | escaped (problem : Problem)

namespace Program

/-- Sets up the logbook of a session. -/
def setUpLogbook (surroundings : Surroundings) (config : Config) : Program Unit := do
  let session ← get
  let step := session.logbook.setUp surroundings.moment [] config.effectiveLogLevel config.logFile
    config.jsonLogs session.tree
  set { session with
    logbook := step.logbook
    tree := step.tree
    errors := session.errors ++ step.console.flatMap (· ++ [Text.newline]) }
  match step.fault with
  | some fault => throw (.unexpected fault)
  | none => return

/-- Carries out a command under a configuration. -/
def command (surroundings : Surroundings) (config : Config) : Command → Program Nat
  | .compile file => compile surroundings config file
  | .watch directory => watch surroundings config directory
  | .new file language => create surroundings.console config file language

/-- Carries out the command of an invocation. -/
def perform (surroundings : Surroundings) (invocation : Invocation) (c : Command) :
    Program Nat := do
  match invocation.configuration surroundings.environment (← get).tree surroundings.program with
  | .error problem => throw problem
  | .ok config =>
    setUpLogbook surroundings config
    command surroundings config c

/-- What is left to do after a problem. -/
def recover (console : Console) : Problem → Program Nat
  | .interrupted _ => do
    say console "\n[yellow]GPT Compiler stopped[/yellow]"
    return 0
  | .reported error => refuse console error.message
  | .unexpected fault => throw (.unexpected fault)

/-- Carries out the command of an invocation and deals with its problem, if it has one. -/
def carryOut (surroundings : Surroundings) (invocation : Invocation) (c : Command) : Program Nat :=
  tryCatch (perform surroundings invocation c) (recover surroundings.console)

end Program

namespace Session

/-- A session on a file tree, from its arguments to its exit. -/
def run (surroundings : Surroundings) (tree : Tree) (arguments : List Text) : Exit × Session :=
  let session : Session := { tree }
  match Invocation.parse arguments with
  | .error (.shown text) => (.status 0, session.print text)
  | .error (.misused program usage message) =>
    (.status 2, { session with errors := usage ++ program ++ ": error: " ++ message ++ "\n" })
  | .ok invocation =>
    match invocation.command with
    | none => (.status 1, session.print Invocation.mainHelp)
    | some c =>
      match (Program.carryOut surroundings invocation c).run.run session with
      | (.ok code, session) => (.status code, session)
      | (.error problem, session) => (.escaped problem, session)

end Session

end ProseCompiler
