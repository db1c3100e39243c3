import ProseCompiler.Config.Environment
import ProseCompiler.Console.Markup
import ProseCompiler.Log.Logbook
import ProseCompiler.Pipeline
import ProseCompiler.Watch.Events

/-!
# Sessions

One run of the program, from its start to its end: the file tree that it works in, its logbook,
what it has written, and what it has sent.  A program is a step of a session that may end with a
problem; what was done before the problem stays.
-/

namespace ProseCompiler

/-- What can happen while a directory is watched: the file system tells of a change, an open
compilation ends, counted from the oldest, or somebody else changes the files. -/
inductive Happening where
  | told (notification : Watcher.Notification)
  | ended (index : Nat)
  | edited (tree : Tree)

/-- What a session is given from outside: the variables of the process, the service that answers,
the moment at which it happens, how long a compilation takes, the place of the program, from which
an environment file is looked for, the console, and what happens until a session that watches is
asked to stop. -/
structure Surroundings where
  environment : Environment
  service : Service
  moment : Moment
  milliseconds : Nat
  program : Location := []
  console : Console := Console.plain
  happenings : List Happening := []

/-- The state of a session: the files, the logbook, the texts on the two outputs, the requests in
the order in which they were sent, and the timeouts of the clients that were opened. -/
structure Session where
  tree : Tree
  logbook : Logbook := {}
  output : Text := []
  errors : Text := []
  requests : List Request := []
  clients : List (Option Binary64) := []

/-- A step of a session, with a result or a problem. -/
abbrev Program := ExceptT Problem (StateM Session)

namespace Session

/-- The session with a text on its output. -/
def print (session : Session) (t : Text) : Session := { session with output := session.output ++ t }

/-- The session with entries on its console. -/
def showJournal (session : Session) (moment : Moment) (journal : Journal) : Session :=
  let lines := journal.flatMap fun entry =>
    session.logbook.consoleLines moment entry.document entry.record
  { session with errors := session.errors ++ lines.flatMap (· ++ [Text.newline]) }

/-- How the log files of a session follow the work of the compiler. -/
def observer (session : Session) (moment : Moment) : Pipeline.Observer := fun entry tree =>
  session.logbook.writeFiles moment entry.document entry.record tree

/-- The session with an entry on its console and in its log files. -/
def note (session : Session) (moment : Moment) (entry : Entry) : Session :=
  { session with tree := session.observer moment entry session.tree }.showJournal moment [entry]

end Session

namespace Program

/-- The value of a computation that can end with a fault. -/
def attempt (result : Except Fault α) : Program α :=
  match result with
  | .ok value => pure value
  | .error fault => throw (.unexpected fault)

/-- The value of a computation that can end with an error of the compiler. -/
def require (result : Except CompilerError α) : Program α :=
  match result with
  | .ok value => pure value
  | .error error => throw (.reported error)

/-- Prints a line that is written with tags. -/
def say (console : Console) (markup : Text) : Program Unit := do
  let line ← attempt (console markup)
  modify fun session => session.print (line ++ [Text.newline])

/-- Asks the files of the session something that can end with a fault. -/
def ask (question : Tree → Except Fault α) : Program α := do
  attempt (question (← get).tree)

end Program

end ProseCompiler
