import ProseCompiler.CommandLine.Session
import ProseCompiler.Config.Validation
import ProseCompiler.Document.Creation

/-!
# Compiling and creating

The commands that deal with one document.  A document is compiled only if it is there, has the
extension of documents, and the configuration is valid; the exit status says whether there is
code.
-/

namespace ProseCompiler

/-- What is printed of an outcome. -/
def Outcome.line (document : Location) : Outcome → Text
  | .succeeded path language =>
    "[green]✅ Code generated successfully:[/green] " ++ path ++ " [dim](" ++ language ++ ")[/dim]"
  | .failed error _ =>
    "[red]❌ Error processing " ++ Location.text document ++ ":[/red] " ++ error

/-- The exit status of an outcome. -/
def Outcome.status (outcome : Outcome) : Nat := if outcome.isSuccess then 0 else 1

namespace Program

/-- Says what is wrong with the command and gives the exit status for it. -/
def refuse (console : Console) (message : Text) : Program Nat := do
  say console ("[red]Error: " ++ message ++ "[/red]")
  return 1

/-- Whether the service was to be asked in a run, which its journal tells. -/
def Asked (run : Pipeline.Run) : Prop := ∃ entry ∈ run.journal, entry.logger = Answer.logger

instance (run : Pipeline.Run) : Decidable (Asked run) :=
  inferInstanceAs (Decidable (∃ entry ∈ run.journal, entry.logger = Answer.logger))

/-- Runs a document through the compiler.  A client is opened when the service is to be asked. -/
def process (surroundings : Surroundings) (config : Config) (document : Location) :
    Program Outcome := do
  let session ← get
  let run := Pipeline.run config surroundings.service (session.observer surroundings.moment)
    surroundings.milliseconds session.requests session.tree (Path.ofLocation document)
  let opened := if Asked run then [config.requestTimeout] else []
  set ({ session with
    tree := run.tree
    requests := session.requests ++ run.requests
    clients := session.clients ++ opened }.showJournal surroundings.moment run.journal)
  match run.result with
  | .ok outcome => pure outcome
  | .error halt => throw halt.problem

/-- Compiles the document at a path. -/
def compile (surroundings : Surroundings) (config : Config) (file : Text) : Program Nat := do
  let document ← ask fun tree => tree.resolve (Path.ofText file)
  let isThere ← ask fun tree => tree.entryExists (Location.text document)
  if !isThere then
    refuse surroundings.console ("File not found: " ++ Location.text document)
  else if !Text.endsWith (Location.name document) config.documentExtension then
    refuse surroundings.console ("Only " ++ config.documentExtension ++ " files can be compiled")
  else do
    require config.validate
    say surroundings.console ("Compiling file: " ++ Location.text document)
    let outcome ← process surroundings config document
    say surroundings.console (outcome.line document)
    return outcome.status

/-- Makes a new document at a path. -/
def create (console : Console) (config : Config) (file language : Text) : Program Nat := do
  let session ← get
  let (tree, result) :=
    Creation.create session.tree (Path.ofText file) language config.documentExtension
  set { session with tree }
  match result with
  | .error problem => throw problem
  | .ok place =>
    say console ("[green]Created new file:[/green] " ++ Location.text place)
    return 0

end Program

end ProseCompiler
