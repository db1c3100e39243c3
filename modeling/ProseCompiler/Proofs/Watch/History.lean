import ProseCompiler.Watch.Schedule

/-!
# Histories of a watcher

A watcher is acted upon from outside: it is started and stopped, told of
changes, and told that a compilation has ended.  In between, the jobs that are
ready are done.  `Watcher.act` is one such action and `Watcher.play` a list of
them.

Nothing here fixes the order in which ready jobs are done: an action names any
of them.  What is proved of every list of actions therefore holds of every
interleaving; those of `Watcher.settle` and `Watcher.drain` are among them
(`settle_eq_play`, `drain_eq_play`).  The file tree may be a different one at
every action.

An action that is not possible changes nothing and shows nothing: a job that is
not there, the end of a compilation that is not open, an event whose path
cannot be resolved.
-/

namespace ProseCompiler.Watcher

/-- What can happen to a watcher at one moment. -/
inductive Action where
  | start (tree : Tree) (refusal : Refusal) (path : Path)
  | event (tree : Tree) (kind path : Text)
  | handOver (kind path : Text)
  | stop
  | finish (document : Location) (ending : Ending)
  | job (tree : Tree) (index : Nat)

/-- One action: the watcher after it, and what it showed. -/
def act (setup : Setup) (w : Watcher) : Action → Effect
  | .start tree refusal path => (w.start setup tree refusal path).1
  | .event tree kind path => perform setup tree w (.event kind path)
  | .handOver kind path => (w.enqueue kind path, [])
  | .stop => w.stop
  | .finish document ending => ((w.finish document ending).getD w, [])
  | .job tree index =>
    match w.ready[index]? with
    | none => (w, [])
    | some job => perform setup tree { w with ready := w.ready.eraseIdx index } job

/-- Actions one after the other: the watcher after the last of them, and what
all of them showed. -/
def play (setup : Setup) : Watcher → List Action → Effect
  | w, [] => (w, [])
  | w, action :: rest =>
    let (w, reports) := w.act setup action
    let (w, more) := play setup w rest
    (w, reports ++ more)

/-! ## Settling -/

theorem play_append (setup : Setup) (w : Watcher) (first second : List Action) :
    play setup w (first ++ second) =
      ((play setup (play setup w first).1 second).1,
        (play setup w first).2 ++ (play setup (play setup w first).1 second).2) := by
  induction first generalizing w with
  | nil => rfl
  | cons action rest ih => simp [play, ih]

theorem settleWithin_eq_play (setup : Setup) (tree : Tree) (fuel : Nat) (w : Watcher) :
    ∃ actions, (∀ tree index, Action.job tree index ∈ actions → index = 0) ∧
      settleWithin setup tree fuel w = play setup w actions := by
  induction fuel generalizing w with
  | zero => exact ⟨[], by simp, rfl⟩
  | succ fuel ih =>
    cases hready : w.ready with
    | nil => exact ⟨[], by simp, by simp [settleWithin, hready, play]⟩
    | cons job rest =>
      obtain ⟨actions, hfirst, hactions⟩ := ih (perform setup tree { w with ready := rest } job).1
      refine ⟨.job tree 0 :: actions, fun other index hmem => ?_, ?_⟩
      · rcases List.mem_cons.mp hmem with heq | hmem
        · cases heq
          rfl
        · exact hfirst other index hmem
      · simp [settleWithin, hready, play, act, hactions]

/-- Doing all jobs in the order in which they became ready is a history, in which
the first job is always done next. -/
theorem settle_eq_play (setup : Setup) (tree : Tree) (w : Watcher) :
    ∃ actions, (∀ tree index, Action.job tree index ∈ actions → index = 0) ∧
      w.settle setup tree = play setup w actions :=
  settleWithin_eq_play setup tree w.potential w

/-! ## What a trace tells -/

/-- The run whose dispatch a report tells of. -/
def Report.dispatched? : Report → Option Run
  | .dispatched run => some run
  | _ => none

/-- The run whose compilation begins with a report. -/
def Report.called? : Report → Option Run
  | .called run => some run
  | _ => none

/-- The run whose compilation has ended with a report. -/
def Report.ended? : Report → Option Run
  | .ended run _ => some run
  | _ => none

/-- The run that leaves the register with a report. -/
def Report.closed? : Report → Option Run
  | .closed run => some run
  | _ => none

/-- The runs that were dispatched, in this order. -/
def dispatches (trace : List Report) : List Run := trace.filterMap Report.dispatched?

/-- The runs whose compilations began, in this order. -/
def calls (trace : List Report) : List Run := trace.filterMap Report.called?

/-- The runs whose compilations have ended, in this order. -/
def endings (trace : List Report) : List Run := trace.filterMap Report.ended?

/-- The runs that have left the register, in this order. -/
def closings (trace : List Report) : List Run := trace.filterMap Report.closed?

@[simp] theorem dispatches_concat (trace : List Report) (report : Report) :
    dispatches (trace ++ [report]) = dispatches trace ++ report.dispatched?.toList := by
  cases h : report.dispatched? <;> simp [dispatches, h]

@[simp] theorem calls_concat (trace : List Report) (report : Report) :
    calls (trace ++ [report]) = calls trace ++ report.called?.toList := by
  cases h : report.called? <;> simp [calls, h]

@[simp] theorem endings_concat (trace : List Report) (report : Report) :
    endings (trace ++ [report]) = endings trace ++ report.ended?.toList := by
  cases h : report.ended? <;> simp [endings, h]

@[simp] theorem closings_concat (trace : List Report) (report : Report) :
    closings (trace ++ [report]) = closings trace ++ report.closed?.toList := by
  cases h : report.closed? <;> simp [closings, h]

/-- The runs whose compilations are open: they began and have not ended. -/
def openCalls (trace : List Report) : List Run :=
  (calls trace).filter fun run => run ∉ endings trace

/-- The runs that were dispatched and have not left the register. -/
def unclosed (trace : List Report) : List Run :=
  (dispatches trace).filter fun run => run ∉ closings trace

/-- A report that tells nothing of how runs and documents stand. -/
def Report.IsAside : Report → Prop
  | .entry _ | .shown .. | .observer _ => True
  | _ => False

theorem Report.IsAside.tells_nothing {report : Report} (h : report.IsAside) :
    report.dispatched? = none ∧ report.called? = none ∧ report.ended? = none ∧
      report.closed? = none := by
  cases report with
  | entry | shown | observer => exact ⟨rfl, rfl, rfl, rfl⟩
  | accepted | dispatched | called | ended | closed => exact h.elim

/-- An entry, or a call to the observer. -/
def Report.IsNote : Report → Prop
  | .entry _ | .observer _ => True
  | _ => False

theorem Report.IsNote.isAside {report : Report} (h : report.IsNote) : report.IsAside := by
  cases report with
  | entry | observer => exact trivial
  | accepted | dispatched | called | shown | ended | closed => exact h.elim

theorem entry_isNote (level : Level) (message : Text) (fault : Option Fault) (document : Text) :
    (entry level message fault document).IsNote := trivial

theorem entry_isAside (level : Level) (message : Text) (fault : Option Fault) (document : Text) :
    (entry level message fault document).IsAside := trivial

/-! ## What starting and stopping consist of -/

/-- What a scan does to a watcher, it does by additions of files that the search finds. -/
theorem scan_induction {setup : Setup} {tree : Tree} {root : Location}
    {P : Watcher → Effect → Prop} (hrefl : ∀ w, P w (w, []))
    (htrans : ∀ {w w' w'' : Watcher} {reports more : List Report},
      P w (w', reports) → P w' (w'', more) → P w (w'', reports ++ more))
    (hevent : ∀ {found : List (List Text)} {parts : List Text} {w : Watcher} {effect : Effect}
      {run : Option Run}, setup.scansFirst = true →
      tree.search root (namePattern setup) = .ok found → parts ∈ found →
      tree.isFile (Tree.pathBelow root parts) = .ok true →
      w.handleEvent setup tree added (Path.text ⟨.relative, parts⟩) = .ok (effect, run) →
      P w effect)
    (w : Watcher) : P w (scan setup tree root w).1 := by
  have hadditions (found : List (List Text)) (hscans : setup.scansFirst = true)
      (hfound : tree.search root (namePattern setup) = .ok found) (rest : List (List Text))
      (hrest : rest ⊆ found) (w : Watcher) (reports : List Report) :
      ∃ more, (handleAdditions setup tree root w reports rest).1.2 = reports ++ more ∧
        P w ((handleAdditions setup tree root w reports rest).1.1, more) := by
    induction rest generalizing w reports with
    | nil => exact ⟨[], (List.append_nil reports).symm, hrefl w⟩
    | cons parts rest ih =>
      obtain ⟨hparts, hrest⟩ := List.cons_subset.mp hrest
      unfold handleAdditions
      split
      · exact ⟨[], (List.append_nil reports).symm, hrefl w⟩
      · exact ih hrest w reports
      · next hfile =>
        cases h : w.handleEvent setup tree added (Path.text ⟨.relative, parts⟩) with
        | error fault => exact ⟨[], (List.append_nil reports).symm, hrefl w⟩
        | ok result =>
          obtain ⟨⟨w', shown⟩, run⟩ := result
          obtain ⟨more, hmore, hlater⟩ := ih hrest w' (reports ++ shown)
          refine ⟨shown ++ more, ?_,
            htrans (hevent hscans hfound hparts hfile h) hlater⟩
          rw [← List.append_assoc]
          exact hmore
  unfold scan
  split
  · next hscans =>
    split
    · exact hrefl w
    · next found hfound =>
      obtain ⟨more, hmore, htakes⟩ := hadditions found hscans hfound found (List.Subset.refl _) w []
      rw [List.nil_append] at hmore
      rwa [← hmore] at htakes
  · exact hrefl w

/-- A property of effects that goes from effects to their sequence, and that
notes and accepted events have.  Phase, root and observer do not matter. -/
structure Additive (setup : Setup) (P : Watcher → Effect → Prop) : Prop where
  notes : ∀ {w : Watcher} {phase root isObserving reports},
    (∀ report ∈ reports, Report.IsNote report) →
      P w ({ w with phase, root, isObserving }, reports)
  trans : ∀ {w w' w'' : Watcher} {reports more : List Report},
    P w (w', reports) → P w' (w'', more) → P w (w'', reports ++ more)
  event : ∀ {tree : Tree} {w : Watcher} {kind path : Text} {effect : Effect} {run : Option Run},
    w.handleEvent setup tree kind path = .ok (effect, run) → P w effect

namespace Additive

variable {setup : Setup} {P : Watcher → Effect → Prop}

theorem refl (hP : Additive setup P) (w : Watcher) : P w (w, []) := hP.notes (by simp)

theorem perform_event (hP : Additive setup P) (tree : Tree) (w : Watcher) (kind path : Text) :
    P w (perform setup tree w (.event kind path)) := by
  simp only [perform]
  split
  · exact hP.refl w
  · rename_i h
    exact hP.event h

theorem scan (hP : Additive setup P) (tree : Tree) (root : Location) (w : Watcher) :
    P w (scan setup tree root w).1 :=
  scan_induction hP.refl hP.trans (fun _ _ _ _ h => hP.event h) w

theorem observe (hP : Additive setup P) (tree : Tree) (refusal : Refusal) (root : Location)
    (w : Watcher) : P w (observe setup tree refusal root w).1 := by
  have hobserver : ∀ call, (Report.observer call).IsNote := fun _ => trivial
  cases hschedule : refusal (.schedule (Location.text root)) with
  | some fault =>
    simp only [Watcher.observe, hschedule]
    exact hP.notes (by simp [hobserver])
  | none =>
    cases hstart : refusal .start with
    | some fault =>
      simp only [Watcher.observe, hschedule, hstart]
      exact hP.notes (by simp [hobserver])
    | none =>
      simp only [Watcher.observe, hschedule, hstart]
      exact hP.trans (hP.notes (by simp [hobserver, entry_isNote])) (hP.scan tree root w)

theorem start (hP : Additive setup P) (tree : Tree) (refusal : Refusal) (path : Path)
    (w : Watcher) : P w (w.start setup tree refusal path).1 := by
  unfold Watcher.start
  split
  · exact hP.refl w
  · split
    · exact hP.refl w
    · split
      · exact hP.refl w
      · exact hP.refl w
      · rename_i root _ _ _
        let w' : Watcher := { w with phase := .watching, root := some root, isObserving := true }
        have hwatching : P w (w', []) := hP.notes (by simp)
        exact hP.trans hwatching (hP.observe tree refusal root w')

theorem stop (hP : Additive setup P) (w : Watcher) : P w w.stop := by
  unfold Watcher.stop
  split
  · exact hP.refl w
  · refine hP.notes ?_
    intro report hreport
    rcases List.mem_append.mp hreport with hobserver | hclosing
    · split at hobserver
      · simp only [List.mem_cons, List.not_mem_nil, or_false] at hobserver
        rcases hobserver with rfl | rfl <;> exact trivial
      · cases hobserver
    · split at hclosing
      · rw [List.mem_singleton.mp hclosing]
        exact entry_isNote ..
      · cases hclosing

end Additive

end ProseCompiler.Watcher
