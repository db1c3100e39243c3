import ProseCompiler.Watch.Events

/-!
# The order of steps

Jobs are done one after the other in the order in which they became ready.  `settle` goes on until
none is left; what is open then waits for the outside.  It ends because every job takes something
away from `potential`, a count of the work that jobs, waiters and follow-ups can still cause.
`Draining` is a call that waits until no run is registered, and `drain` lets the open compilations
end, the oldest first, until such a call has returned.
-/

namespace ProseCompiler.Watcher

/-- One job.  An event that cannot be taken is forgotten. -/
def perform (setup : Setup) (tree : Tree) (w : Watcher) : Job → Effect
  | .begin run => w.begin run
  | .wake run => w.wake run
  | .resume run ending => w.resume setup run ending
  | .close run => w.close run
  | .event kind path =>
    match w.handleEvent setup tree kind path with
    | .error _ => (w, [])
    | .ok (effect, _) => effect

/-- How much work a job can cause, itself included. -/
def Job.weight : Job → Nat
  | .begin _ => 3
  | .wake _ => 1
  | .resume .. => 2
  | .close _ => 1
  | .event .. => 4

/-- How much work can still come without anything from outside. -/
def potential (w : Watcher) : Nat :=
  w.ready.foldl (fun n job => n + job.weight) 0 +
    2 * (w.waiting.filter fun waiter => !waiter.isWoken).length + 3 * w.dirty.length

/-- Does at most a number of jobs. -/
def settleWithin (setup : Setup) (tree : Tree) : (fuel : Nat) → Watcher → Effect
  | 0, w => (w, [])
  | fuel + 1, w =>
    match w.ready with
    | [] => (w, [])
    | job :: rest =>
      let (w, reports) := perform setup tree { w with ready := rest } job
      let (w, more) := settleWithin setup tree fuel w
      (w, reports ++ more)

/-- Does all jobs until none is ready. -/
def settle (setup : Setup) (tree : Tree) (w : Watcher) : Effect :=
  settleWithin setup tree w.potential w

/-! ## Draining -/

/-- A call that waits until no run is registered: the runs that it waits for, all of them at once,
and how often it has waited.  It has returned when it waits for none. -/
structure Draining where
  awaited : List Run
  waits : Nat
deriving DecidableEq, Repr

namespace Draining

/-- The call looks at the register, and waits for the runs there. -/
def look (w : Watcher) (waits : Nat) : Draining :=
  if w.inFlight = [] then ⟨[], waits⟩ else ⟨w.inFlight, waits + 1⟩

/-- A call as it begins. -/
def begin (w : Watcher) : Draining := look w 0

def hasReturned (call : Draining) : Bool := call.awaited.isEmpty

/-- Whether every run that the call waits for has ended.  The end of a run is told to those who
asked for it in the order in which they asked.  The register did so first, at the dispatch, so
the run has left it, and its follow-up is there, when the call is told. -/
def isMet (call : Draining) (w : Watcher) : Bool :=
  call.awaited.all fun run => !w.inFlight.contains run

/-- The call goes on as soon as it can, and looks at the register again. -/
def goOn (call : Draining) (w : Watcher) : Draining :=
  if !call.hasReturned && call.isMet w then look w call.waits else call

end Draining

/-- Ends the oldest open compilation and settles, a number of times, until a call has returned. -/
def drainWithin (setup : Setup) (tree : Tree) (ending : Run → Ending) :
    (fuel : Nat) → Watcher → Draining → Effect
  | 0, w, _ => (w, [])
  | fuel + 1, w, call =>
    if call.hasReturned then (w, [])
    else
      match w.running with
      | [] => (w, [])
      | run :: _ =>
        match w.finish run.document (ending run) with
        | none => (w, [])
        | some w =>
          let (w, reports) := w.settle setup tree
          let (w, more) := drainWithin setup tree ending fuel w (call.goOn w)
          (w, reports ++ more)

/-- Lets everything end that is registered or needs a follow-up.  Each end takes one run or one
follow-up away. -/
def drain (setup : Setup) (tree : Tree) (ending : Run → Ending) (w : Watcher) : Effect :=
  drainWithin setup tree ending (w.inFlight.length + w.dirty.length) w (Draining.begin w)

end ProseCompiler.Watcher
