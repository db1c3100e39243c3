import ProseCompiler.Document.Target
import ProseCompiler.Files.Operations
import ProseCompiler.Outcome
import ProseCompiler.Service.Answer

/-!
# Compiling one document

A document is read, its target is resolved, the service is asked for the code, and the code is
written.  Whatever goes wrong becomes a failed outcome.  Only a request to stop is passed on, and
the fault that comes of an exception without a text, which an outcome would have to quote.

The work falls into two parts around the wait for the service: `start` ends with a request, or
with the outcome if it does not come that far, and `finish` goes on with the answer.  Entries of
the journal may be written to files of the same tree while the work goes on; an observer says
what each of them does to the tree.
-/

namespace ProseCompiler.Pipeline

/-- What an entry does to the file tree at the moment when it is made. -/
abbrev Observer := Entry → Tree → Tree

/-- The observer that writes nothing. -/
def Observer.silent : Observer := fun _ tree => tree

/-- The logger of the pipeline. -/
def logger : Text := "gpt_compiler.pipeline"

/-- A document that waits for the service. -/
structure Pending where
  document : Path
  target : Target
  request : Request

/-- What ends the work on a document without an outcome: a request to stop, or a fault that nothing
catches. -/
inductive Halt where
  | asked (message : Text)
  | escaped (fault : Fault)
deriving DecidableEq, Repr

namespace Halt

def problem : Halt → Problem
  | .asked message => .interrupted message
  | .escaped fault => .unexpected fault

/-- A halt is told by its message. -/
instance : CoeOut Halt Text := ⟨fun halt => halt.problem.message⟩

end Halt

/-- How far a document comes without the service. -/
inductive Start where
  | waiting (pending : Pending)
  | done (outcome : Outcome)

/-- The tree after an entry was made. -/
def observed (observer : Observer) (tree : Tree) (journal : Journal) : Tree :=
  journal.foldl (fun tree entry => observer entry tree) tree

/-! ## Entries -/

def processing (document : Path) : Entry :=
  { level := .info, logger, document := document.text
    message := "Processing file: " ++ document.text }

def resolvedEntry (document : Path) (target : Target) : Entry :=
  { level := .debug, logger, document := document.text
    message := "Resolved language=" ++ target.language ++ " output=" ++
      Location.text target.output }

/-- The entry and the outcome of a document that failed. -/
def failure (document : Path) : Problem → Except Halt (Entry × Outcome)
  | .reported error => .ok
      ({ level := .error, logger, document := document.text
         message := "Error processing " ++ document.text ++ ": " ++ error.message },
       .ofError error)
  | .unexpected fault => .ok
      ({ level := .error, logger, document := document.text
         message := "Unexpected error processing " ++ document.text
         fault := some fault },
       .ofFault fault)
  | .interrupted message => .error (.asked message)

/-- The entry of a document that succeeded after a number of milliseconds. -/
def success (document : Path) (target : Target) (milliseconds : Nat) : Entry :=
  { level := .info, logger, document := document.text
    message := "Code generated successfully: " ++ Location.text target.output ++ " (" ++
      Text.ofNat milliseconds ++ "ms)"
    extra := [("language", .text target.language), ("duration_ms", .integer milliseconds)] }

/-! ## Stages -/

/-- The text of a document. -/
def read (tree : Tree) (document : Path) : Except Problem Text :=
  match tree.readText document.text with
  | .ok text => .ok text
  | .error fault =>
    match fault with
    | .system .. | .undecodable _ => .error (.reported (.unreadable document.text fault.message))
    | _ => .error (.unexpected fault)

/-- The problem that a fault while writing stands for. -/
def writeProblem (output : Location) (fault : Fault) : Problem :=
  match fault with
  | .system .. => .reported (.unwritable (Location.text output) fault.message)
  | _ => .unexpected fault

/-- The tree with the code in the output file, directories made as needed. -/
def write (tree : Tree) (output : Location) (code : Text) : Tree × Except Problem Unit :=
  match tree.ensureDirectory (Location.parent output).reverse with
  | (tree, .error fault) => (tree, .error (writeProblem output fault))
  | (tree, .ok ()) =>
    match tree.writeText (Location.text output) code with
    | (tree, .error fault) => (tree, .error (writeProblem output fault))
    | (tree, .ok ()) => (tree, .ok ())

/-- Reads a document and resolves its target. -/
def load (tree : Tree) (config : Config) (document : Path) :
    Except Problem (Document × Target) :=
  match read tree document with
  | .error problem => .error problem
  | .ok text =>
    let parsed := Document.parse text
    match Target.resolve tree parsed document config.defaultLanguage with
    | .error fault => .error (.unexpected fault)
    | .ok target => .ok (parsed, target)

/-! ## The two parts -/

/-- What one part of the work does: the tree after it, what it reported, and its result. -/
structure Part (α : Type) where
  tree : Tree
  journal : Journal
  result : α

/-- Ends a part that failed with a problem that is not a request to stop. -/
def fail (observer : Observer) (tree : Tree) (journal : Journal) (document : Path)
    (problem : Problem) : Part (Except Halt Outcome) :=
  match failure document problem with
  | .ok (entry, outcome) => ⟨observer entry tree, journal ++ [entry], .ok outcome⟩
  | .error halt => ⟨tree, journal, .error halt⟩

/-- Ends a part for which the answer held no code.  An exception without a text is reported like
any other, but there is no outcome to make of it. -/
def disappoint (observer : Observer) (tree : Tree) (journal : Journal) (document : Path)
    (answer : Answer) (problem : Problem) : Part (Except Halt Outcome) :=
  let part := fail observer tree journal document problem
  match answer.silence? with
  | none => part
  | some fault => { part with result := .error (.escaped fault) }

/-- The work before the request. -/
def start (config : Config) (observer : Observer) (tree : Tree) (document : Path) :
    Part (Except Halt Start) :=
  let stop := fun (tree : Tree) (journal : Journal) (problem : Problem) =>
    let part := fail observer tree journal document problem
    (⟨part.tree, part.journal, part.result.map Start.done⟩ : Part (Except Halt Start))
  let first := processing document
  let tree := observer first tree
  match load tree config document with
  | .error problem => stop tree [first] problem
  | .ok (parsed, target) =>
    let resolved := resolvedEntry document target
    let announced := Answer.announcement config document.text target.language
    let tree := observed observer tree [resolved, announced]
    let journal := [first, resolved, announced]
    match Request.make config parsed.instructions target.language with
    | .error fault => stop tree journal (.unexpected fault)
    | .ok request => ⟨tree, journal, .ok (.waiting ⟨document, target, request⟩)⟩

/-- The work after the answer. -/
def finish (observer : Observer) (milliseconds : Nat) (tree : Tree) (pending : Pending)
    (answer : Answer) : Part (Except Halt Outcome) :=
  let document := pending.document
  let (journal, result) :=
    answer.code pending.request document.text pending.target.language
  let tree := observed observer tree journal
  match result with
  | .error problem => disappoint observer tree journal document answer problem
  | .ok code =>
    match write tree pending.target.output code with
    | (tree, .error problem) => fail observer tree journal document problem
    | (tree, .ok ()) =>
      let entry := success document pending.target milliseconds
      ⟨observer entry tree, journal ++ [entry],
        .ok (.succeeded (Location.text pending.target.output) pending.target.language)⟩

/-! ## The whole -/

/-- What compiling a document did: the tree after it, the request that was sent if any, what was
reported, and the outcome or what there is in place of one. -/
structure Run where
  tree : Tree
  requests : List Request
  journal : Journal
  result : Except Halt Outcome

/-- Compiles the document at a path. -/
def run (config : Config) (service : Service) (observer : Observer) (milliseconds : Nat)
    (earlier : List Request) (tree : Tree) (document : Path) : Run :=
  let started := start config observer tree document
  match started.result with
  | .error halt => ⟨started.tree, [], started.journal, .error halt⟩
  | .ok (.done outcome) => ⟨started.tree, [], started.journal, .ok outcome⟩
  | .ok (.waiting pending) =>
    let finished := finish observer milliseconds started.tree pending
      (service earlier pending.request)
    ⟨finished.tree, [pending.request], started.journal ++ finished.journal, finished.result⟩

/-- Compiles documents one after the other, each in the tree that the one before it left, until one
comes to no outcome. -/
def runAll (config : Config) (service : Service) (observer : Observer) (milliseconds : Nat) :
    (earlier : List Request) → Tree → List Path → List Run
  | _, _, [] => []
  | earlier, tree, document :: rest =>
    let run := run config service observer milliseconds earlier tree document
    match run.result with
    | .error _ => [run]
    | .ok _ =>
      run :: runAll config service observer milliseconds (earlier ++ run.requests) run.tree rest

end ProseCompiler.Pipeline
