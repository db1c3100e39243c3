import ProseCompiler.Files.Path
import ProseCompiler.Log.Entry
import ProseCompiler.Outcome

/-!
# The watcher

A watcher compiles documents as they change.  A run is one pass of one document through the
compiler; at most one run of a document is registered at a time, and changes that come while it
is registered are remembered as one follow-up.  A bound on how many runs compile at once is kept
by slots, which are given to the runs in the order in which they ask.

The watcher is a machine that takes one small step after the other.  Whatever a step makes
possible is put into a queue of jobs; each job is again one step.  This module holds the state and
the steps of the runs; which job comes next is decided elsewhere.
-/

namespace ProseCompiler

namespace Watcher

/-- The life of a watcher: started once, stopped once. -/
inductive Phase where
  | idle
  | watching
  | stopped
deriving DecidableEq, Repr

def Phase.name : Phase → Text
  | .idle => "idle"
  | .watching => "watching"
  | .stopped => "stopped"

/-- One pass of a document through the compiler. -/
structure Run where
  id : Nat
  document : Location
deriving DecidableEq, Repr

/-- How a compilation ended. -/
inductive Ending where
  | returned (outcome : Outcome)
  | raised (fault : Fault)
deriving DecidableEq, Repr

/-- A step that is ready: a run begins, has got the slot it waited for, goes on after its
compilation, or leaves the register; or the watcher is told of a change. -/
inductive Job where
  | begin (run : Run)
  | wake (run : Run)
  | resume (run : Run) (ending : Ending)
  | close (run : Run)
  | event (kind path : Text)
deriving DecidableEq, Repr

/-- A run that waits for a slot, and whether one was set aside for it. -/
structure Waiter where
  run : Run
  isWoken : Bool := false
deriving DecidableEq, Repr

/-- What is asked of the observer of the file system. -/
inductive ObserverCall where
  | schedule (root : Text)
  | start
  | stop
  | join
deriving DecidableEq, Repr

/-- How a document stands when an event for it is accepted: without a run, with a run that is
registered, or with a follow-up noted as well. -/
inductive Standing where
  | free
  | inFlight
  | dirty
deriving DecidableEq, Repr

/-- What can be seen of a step from outside. -/
inductive Report where
  | entry (entry : Entry)
  | accepted (document : Location) (standing : Standing)
  | dispatched (run : Run)
  | called (run : Run)
  | shown (document : Location) (outcome : Outcome)
  | ended (run : Run) (outcome : Option Outcome)
  | closed (run : Run)
  | observer (call : ObserverCall)

/-- What a watcher is set up with: the ending of the names of documents, whether documents that
are there already are compiled, and who is shown the outcomes; showing one may fail. -/
structure Setup where
  extension : Text
  scansFirst : Bool
  display : Option (Location → Outcome → Option Fault)

end Watcher

/-- A watcher.  `inFlight` is the register of runs in the order of their dispatch, `dirty` holds
the documents that need a follow-up, `running` the runs whose compilation is open, oldest first.
`slots` counts the free slots; without a number there is no bound. -/
structure Watcher where
  phase : Watcher.Phase := .idle
  root : Option Location := none
  isObserving : Bool := false
  slots : Option Nat
  nextId : Nat := 0
  inFlight : List Watcher.Run := []
  dirty : List Location := []
  waiting : List Watcher.Waiter := []
  running : List Watcher.Run := []
  ready : List Watcher.Job := []
deriving DecidableEq, Repr

namespace Watcher

/-- The logger of the watcher. -/
def logger : Text := "gpt_compiler.watcher"

/-- A watcher that has not been started; a bound that is not positive is none. -/
def new (maxConcurrent : Int) : Watcher :=
  { slots := if maxConcurrent > 0 then some maxConcurrent.toNat else none }

/-- A watcher after a step, and what the step showed. -/
abbrev Effect := Watcher × List Report

def isWatching (w : Watcher) : Bool := w.phase == .watching

/-- Whether a run of a document is registered. -/
def isInFlight (w : Watcher) (document : Location) : Bool :=
  w.inFlight.any fun run => run.document == document

/-- The run that is registered for a document. -/
def registered? (w : Watcher) (document : Location) : Option Run :=
  w.inFlight.find? fun run => run.document == document

/-- How a document stands. -/
def standing (w : Watcher) (document : Location) : Standing :=
  if w.isInFlight document then if w.dirty.contains document then .dirty else .inFlight
  else .free

/-! ## Entries -/

def entry (level : Level) (message : Text) (fault : Option Fault := none)
    (document : Text := []) : Report :=
  .entry { level, logger, document, message, fault }

/-- The report that a document has to wait for its run to end. -/
def coalesced (document : Location) : Report :=
  entry .debug (Location.text document ++ " is already compiling, queued one follow-up run")

/-- The report that a compilation raised a fault. -/
def failed (document : Location) (fault : Fault) : Report :=
  entry .error ("Error processing file: " ++ Location.text document) fault (Location.text document)

/-- The report that an outcome could not be shown. -/
def unshown (document : Location) (fault : Fault) : Report :=
  entry .error ("Outcome callback failed for " ++ Location.text document) fault
    (Location.text document)

/-! ## Dispatch -/

/-- Registers a new run of a document; a document that has one already gets a follow-up. -/
def dispatch (w : Watcher) (document : Location) : Effect × Option Run :=
  if w.isInFlight document then
    (({ w with dirty := if w.dirty.contains document then w.dirty else w.dirty ++ [document] },
      [coalesced document]), none)
  else
    let run : Run := ⟨w.nextId, document⟩
    (({ w with
        nextId := w.nextId + 1
        inFlight := w.inFlight ++ [run]
        ready := w.ready ++ [.begin run] }, [.dispatched run]), some run)

/-! ## Slots -/

/-- The waiters after a slot was set aside for the first one that has none, and its run. -/
def wokenFirst : List Waiter → Option (List Waiter × Run)
  | [] => none
  | waiter :: rest =>
    if waiter.isWoken then (wokenFirst rest).map fun (rest, run) => (waiter :: rest, run)
    else some ({ waiter with isWoken := true } :: rest, waiter.run)

/-- Sets a free slot aside for the first waiter without one. -/
def wakeNext (w : Watcher) : Watcher :=
  match wokenFirst w.waiting with
  | none => w
  | some (waiting, run) =>
    { w with
      waiting
      slots := w.slots.map (· - 1)
      ready := w.ready ++ [.wake run] }

/-- Gives a slot back. -/
def releaseSlot (w : Watcher) : Watcher :=
  match w.slots with
  | none => w
  | some n => { w with slots := some (n + 1) }.wakeNext

/-- Sets a slot aside for the next waiter if one is free. -/
def offerSlot (w : Watcher) : Watcher :=
  match w.slots with
  | none | some 0 => w
  | some _ => w.wakeNext

/-! ## Steps of a run -/

/-- The compilation of a run begins. -/
def call (w : Watcher) (run : Run) : Effect := ({ w with running := w.running ++ [run] }, [.called run])

/-- A run begins: it compiles at once if it gets a slot, and waits otherwise.  It also waits if
others wait. -/
def begin (w : Watcher) (run : Run) : Effect :=
  match w.slots with
  | none => w.call run
  | some n =>
    if n = 0 ∨ w.waiting ≠ [] then ({ w with waiting := w.waiting ++ [⟨run, false⟩] }, [])
    else { w with slots := some (n - 1) }.call run

/-- A run has got the slot it waited for.  If more slots are free, the next one is woken. -/
def wake (w : Watcher) (run : Run) : Effect :=
  { w with waiting := w.waiting.filter fun waiter => waiter.run != run }.offerSlot.call run

/-- What is shown of the end of a compilation. -/
def closing (setup : Setup) (run : Run) : Ending → List Report
  | .raised fault => [failed run.document fault, .ended run none]
  | .returned outcome =>
    let shown := match setup.display with
      | none => []
      | some display =>
        [Report.shown run.document outcome] ++
          ((display run.document outcome).map (unshown run.document)).toList
    shown ++ [.ended run (some outcome)]

/-- A run goes on after its compilation: it gives its slot back and shows the outcome. -/
def resume (setup : Setup) (w : Watcher) (run : Run) (ending : Ending) : Effect :=
  let w := w.releaseSlot
  ({ w with ready := w.ready ++ [.close run] }, closing setup run ending)

/-- The watcher without a run in the register, if that run is the one registered for its
document. -/
def unregister (w : Watcher) (run : Run) : Watcher :=
  if w.registered? run.document = some run then
    { w with inFlight := w.inFlight.filter fun other => other.document != run.document }
  else w

/-- A run leaves the register, and its document gets the follow-up that it needs. -/
def close (w : Watcher) (run : Run) : Effect :=
  let w := w.unregister run
  if w.dirty.contains run.document then
    let (w, reports) :=
      ({ w with dirty := w.dirty.filter (· != run.document) }.dispatch run.document).1
    (w, .closed run :: reports)
  else (w, [.closed run])

/-- The compilation of a document ends, if one is open. -/
def finish (w : Watcher) (document : Location) (ending : Ending) : Option Watcher :=
  (w.running.find? fun run => run.document == document).map fun run =>
    { w with
      running := w.running.filter (· != run)
      ready := w.ready ++ [.resume run ending] }

end Watcher

end ProseCompiler
