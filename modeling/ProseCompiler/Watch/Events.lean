import ProseCompiler.CompilerError
import ProseCompiler.Files.Glob
import ProseCompiler.Watch.Watcher

/-!
# Changes of files

A watcher is told of changes by a word for what happened and a path below its root.  It takes
additions and changes of documents while it is watching, and nothing else.  Starting it resolves
the root, sets up the observer, and reports the documents that are there already as additions.
-/

namespace ProseCompiler.Watcher

/-! ## Single changes -/

def added : Text := "add"

def changed : Text := "change"

/-- Whether a watcher takes an event at all. -/
def accepts (setup : Setup) (w : Watcher) (kind path : Text) : Bool :=
  w.isWatching && (kind == added || kind == changed) && Text.endsWith path setup.extension

/-- The document that a path below the root stands for. -/
def documentAt (tree : Tree) (root : Location) (path : Text) : Except Fault Location :=
  tree.resolve ((Path.ofLocation root).join (Path.ofText path))

/-- Takes an event: a run of the document is dispatched, or a follow-up noted. -/
def handleEvent (setup : Setup) (tree : Tree) (w : Watcher) (kind path : Text) :
    Except Fault (Effect × Option Run) :=
  if w.accepts setup kind path then
    match documentAt tree (w.root.getD []) path with
    | .error fault => .error fault
    | .ok document =>
      let accepted :=
        [entry .info ("File " ++ kind ++ ": " ++ Location.text document),
          .accepted document (w.standing document)]
      let ((w, reports), run) := w.dispatch document
      .ok ((w, accepted ++ reports), run)
  else .ok ((w, []), none)

/-! ## Notifications of the file system -/

/-- What the file system says has happened to something. -/
inductive Occurrence where
  | created
  | modified
  | other
deriving DecidableEq, Repr

/-- A path as the file system tells it: as a text, or as the octets of one. -/
inductive Spelling where
  | text (t : Text)
  | octets (b : Bytes)
deriving DecidableEq, Repr

def Spelling.decoded : Spelling → Text
  | .text t => t
  | .octets b => Utf8.decodePath b

/-- What the file system says. -/
structure Notification where
  occurrence : Occurrence
  path : Spelling
  isDirectory : Bool

/-- The event that a notification stands for: its kind, and the path as seen from the root. -/
def Notification.event? (n : Notification) (workingDirectory root : Location) :
    Except Fault (Option (Text × Text)) :=
  let kind? := match n.occurrence with
    | .created => some added
    | .modified => some changed
    | .other => none
  match kind? with
  | none => .ok none
  | some kind =>
    if n.isDirectory then .ok none
    else if n.path.decoded = [] then .error (.badValue "no path specified")
    else .ok (some (kind, Location.relativeTo root (Location.ofText workingDirectory n.path.decoded)))

/-- Hands an event over; it is taken when its turn comes. -/
def enqueue (w : Watcher) (kind path : Text) : Watcher :=
  { w with ready := w.ready ++ [.event kind path] }

/-- The report that an event came too late to be handed over. -/
def dropped (kind path : Text) : Report :=
  entry .debug ("Dropped " ++ kind ++ " event for " ++ path ++ ": event loop closed")

/-! ## Start and stop -/

/-- Takes additions of those of some paths below the root at which files stand, one after the
other, up to the first fault. -/
def handleAdditions (setup : Setup) (tree : Tree) (root : Location) :
    Watcher → List Report → List (List Text) → Effect × Except Fault Unit
  | w, reports, [] => ((w, reports), .ok ())
  | w, reports, parts :: rest =>
    match tree.isFile (Tree.pathBelow root parts) with
    | .error fault => ((w, reports), .error fault)
    | .ok false => handleAdditions setup tree root w reports rest
    | .ok true =>
      match w.handleEvent setup tree added (Path.text ⟨.relative, parts⟩) with
      | .error fault => ((w, reports), .error fault)
      | .ok ((w, more), _) => handleAdditions setup tree root w (reports ++ more) rest

/-- The pattern for the names of documents. -/
def namePattern (setup : Setup) : Text := ("*" : Text) ++ setup.extension

/-- Reports the documents that are there already. -/
def scan (setup : Setup) (tree : Tree) (root : Location) (w : Watcher) : Effect × Except Fault Unit :=
  if setup.scansFirst then
    match tree.search root (namePattern setup) with
    | .error fault => ((w, []), .error fault)
    | .ok found => handleAdditions setup tree root w [] found
  else ((w, []), .ok ())

/-- Which calls the observer refuses, and how. -/
abbrev Refusal := ObserverCall → Option Fault

/-- The observer that refuses nothing. -/
def Refusal.never : Refusal := fun _ => none

/-- Sets the observer going on a root, and scans it. -/
def observe (setup : Setup) (tree : Tree) (refusal : Refusal) (root : Location) (w : Watcher) :
    Effect × Except Fault Unit :=
  let schedule := ObserverCall.schedule (Location.text root)
  match refusal schedule with
  | some fault => ((w, [.observer schedule]), .error fault)
  | none =>
    match refusal .start with
    | some fault => ((w, [.observer schedule, .observer .start]), .error fault)
    | none =>
      let opening :=
        [.observer schedule, .observer .start,
          entry .info ("Watching for " ++ setup.extension ++ " files in: " ++ Location.text root)]
      let ((w, reports), result) := scan setup tree root w
      ((w, opening ++ reports), result)

/-- Starts a watcher on a directory.  A watcher that has been started before is refused.  What
fails after the root was found leaves the watcher watching. -/
def start (setup : Setup) (tree : Tree) (refusal : Refusal) (path : Path) (w : Watcher) :
    Effect × Except Problem Unit :=
  if w.phase ≠ .idle then
    ((w, []), .error (.reported (.watcherState w.phase.name "start")))
  else
    match tree.resolve path with
    | .error fault => ((w, []), .error (.unexpected fault))
    | .ok root =>
      match tree.isDirectory (Location.text root) with
      | .error fault => ((w, []), .error (.unexpected fault))
      | .ok false => ((w, []), .error (.unexpected (.noDirectory (Location.text root))))
      | .ok true =>
        let (effect, result) := observe setup tree refusal root
          { w with phase := .watching, root := some root, isObserving := true }
        (effect, result.mapError .unexpected)

/-- Stops a watcher.  Runs that are registered go on, and so do their follow-ups. -/
def stop (w : Watcher) : Effect :=
  if w.phase = .stopped then (w, [])
  else
    let observer : List Report :=
      if w.isObserving then [.observer .stop, .observer .join] else []
    let closing : List Report := if w.isWatching then [entry .info "GPT Compiler stopped"] else []
    ({ w with phase := .stopped, isObserving := false }, observer ++ closing)

end ProseCompiler.Watcher
