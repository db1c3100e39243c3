import Mathlib.Data.List.InsertIdx
import ProseCompiler.Proofs.Watch.History

/-!
# What a watcher goes by

How a compilation ended and what was done with its outcome pass through a watcher
without deciding anything.  To say so, endings are veiled: `Watcher.veiled` is a
watcher with the same ending in all its jobs, and veiled reports tell of
compilations without their outcomes.

Everything that a watcher does commutes with the veil, so a veiled watcher goes
through the same steps: `act_veiled` says so of one action.  Two watchers that look
the same through the veil therefore stay so through histories that do:
`playEach_congr`.  A history comes with a setup for every action, because who is
shown the outcomes may answer differently each time.
-/

namespace ProseCompiler.Watcher

/-! ## Histories with changing setups -/

/-- An action, and the setup that it finds. -/
structure Occasion where
  setup : Setup
  action : Action

/-- Actions one after the other, each with its setup. -/
def playEach : Watcher → List Occasion → Effect
  | w, [] => (w, [])
  | w, step :: rest =>
    let (w, reports) := w.act step.setup step.action
    let (w, more) := playEach w rest
    (w, reports ++ more)

/-- A setup that stays the same gives the histories of `play`. -/
theorem playEach_map (setup : Setup) (w : Watcher) (actions : List Action) :
    playEach w (actions.map (Occasion.mk setup)) = play setup w actions := by
  induction actions generalizing w with
  | nil => rfl
  | cons action rest ih => simp only [List.map_cons, playEach, play, ih]

/-! ## Veils -/

/-- The ending that stands for all endings. -/
def Ending.veil : Ending := .raised .embeddedNul

/-- A job that does not tell how a compilation ended. -/
def Job.veiled : Job → Job
  | .resume run _ => .resume run .veil
  | job => job

theorem Job.veiled_veiled (job : Job) : job.veiled.veiled = job.veiled := by
  cases job <;> rfl

/-- A watcher whose jobs do not tell how a compilation ended. -/
def veiled (w : Watcher) : Watcher := { w with ready := w.ready.map Job.veiled }

theorem veiled_veiled (w : Watcher) : w.veiled.veiled = w.veiled := by
  simp [veiled, Function.comp_def, Job.veiled_veiled]

/-- An action that does not tell how a compilation ended. -/
def Action.veiled : Action → Action
  | .finish document _ => .finish document .veil
  | action => action

/-- A setup in which nobody is shown outcomes. -/
def Setup.veiled (setup : Setup) : Setup := { setup with display := none }

/-- An occasion that tells neither how a compilation ended nor who is shown outcomes. -/
def Occasion.veiled (step : Occasion) : Occasion := ⟨step.setup.veiled, step.action.veiled⟩

/-- What a report tells of runs, documents and the observer. -/
def Report.veiled? : Report → Option Report
  | .entry _ | .shown .. => none
  | .ended run _ => some (.ended run none)
  | report => some report

/-- What a trace tells of runs, documents and the observer. -/
def veiledTrace (trace : List Report) : List Report := trace.filterMap Report.veiled?

@[simp] theorem veiledTrace_append (first second : List Report) :
    veiledTrace (first ++ second) = veiledTrace first ++ veiledTrace second :=
  List.filterMap_append ..

/-- The calls can be read off a veiled trace. -/
theorem calls_veiledTrace (trace : List Report) : calls (veiledTrace trace) = calls trace := by
  induction trace with
  | nil => rfl
  | cons report rest ih =>
    have hrest : (veiledTrace rest).filterMap Report.called? = rest.filterMap Report.called? := ih
    cases report <;>
      simp [calls, veiledTrace, List.filterMap_cons, Report.veiled?, Report.called?, ← hrest]

/-- An effect on a watcher that is veiled afterwards. -/
def Effect.veilState (effect : Effect) : Effect := (effect.1.veiled, effect.2)

/-- An effect of which neither the watcher nor the reports tell how a compilation ended. -/
def Effect.veiled (effect : Effect) : Effect := (effect.1.veiled, veiledTrace effect.2)

/-! ## Steps that do not look at endings

These do the same to a veiled watcher, and report the same. -/

theorem dispatch_veiled (w : Watcher) (document : Location) :
    w.veiled.dispatch document = (w.dispatch document).map Effect.veilState id := by
  have hflight : w.veiled.isInFlight document = w.isInFlight document := rfl
  unfold dispatch
  rw [hflight]
  split
  · rfl
  · simp [Effect.veilState, veiled, Job.veiled]

theorem handleEvent_veiled (setup : Setup) (tree : Tree) (w : Watcher) (kind path : Text) :
    w.veiled.handleEvent setup.veiled tree kind path =
      (w.handleEvent setup tree kind path).map (Prod.map Effect.veilState id) := by
  have haccepts : w.veiled.accepts setup.veiled kind path = w.accepts setup kind path := rfl
  have hroot : w.veiled.root = w.root := rfl
  have hstanding : ∀ document, w.veiled.standing document = w.standing document := fun _ => rfl
  unfold handleEvent
  rw [haccepts, hroot]
  split
  · split
    · rfl
    · simp only [hstanding, dispatch_veiled, Except.map, Prod.map, Effect.veilState, id]
  · rfl

theorem handleAdditions_veiled (setup : Setup) (tree : Tree) (root : Location) (w : Watcher)
    (reports : List Report) (found : List (List Text)) :
    handleAdditions setup.veiled tree root w.veiled reports found =
      (handleAdditions setup tree root w reports found).map Effect.veilState id := by
  induction found generalizing w reports with
  | nil => rfl
  | cons parts rest ih =>
    unfold handleAdditions
    rw [handleEvent_veiled]
    split
    · rfl
    · exact ih w reports
    · cases w.handleEvent setup tree added (Path.text ⟨.relative, parts⟩) with
      | error fault => rfl
      | ok result => exact ih result.1.1 (reports ++ result.1.2)

theorem scan_veiled (setup : Setup) (tree : Tree) (root : Location) (w : Watcher) :
    scan setup.veiled tree root w.veiled =
      (scan setup tree root w).map Effect.veilState id := by
  have hscans : setup.veiled.scansFirst = setup.scansFirst := rfl
  have hpattern : namePattern setup.veiled = namePattern setup := rfl
  unfold scan
  rw [hscans, hpattern]
  split
  · split
    · rfl
    · exact handleAdditions_veiled setup tree root w [] _
  · rfl

theorem observe_veiled (setup : Setup) (tree : Tree) (refusal : Refusal) (root : Location)
    (w : Watcher) :
    observe setup.veiled tree refusal root w.veiled =
      (observe setup tree refusal root w).map Effect.veilState id := by
  have hextension : setup.veiled.extension = setup.extension := rfl
  simp only [observe]
  split
  · rfl
  · split
    · rfl
    · rw [scan_veiled, hextension]
      rfl

theorem start_veiled (setup : Setup) (tree : Tree) (refusal : Refusal) (path : Path)
    (w : Watcher) :
    w.veiled.start setup.veiled tree refusal path =
      (w.start setup tree refusal path).map Effect.veilState id := by
  have hphase : w.veiled.phase = w.phase := rfl
  unfold start
  rw [hphase]
  split
  · rfl
  · split
    · rfl
    · split
      · rfl
      · rfl
      · next root _ _ _ =>
        let w' : Watcher := { w with phase := .watching, root := some root, isObserving := true }
        have hobserve := observe_veiled setup tree refusal root w'
        simp only [Prod.map] at hobserve ⊢
        exact congrArg (fun result => (result.1, result.2.mapError Problem.unexpected)) hobserve

theorem stop_veiled (w : Watcher) : w.veiled.stop = Effect.veilState w.stop := by
  unfold stop
  have hphase : w.veiled.phase = w.phase := rfl
  rw [hphase]
  split <;> rfl

theorem wakeNext_veiled (w : Watcher) : w.veiled.wakeNext = w.wakeNext.veiled := by
  have hwaiting : w.veiled.waiting = w.waiting := rfl
  unfold wakeNext
  rw [hwaiting]
  split
  · rfl
  · simp [veiled, Job.veiled]

theorem releaseSlot_veiled (w : Watcher) : w.veiled.releaseSlot = w.releaseSlot.veiled := by
  have hslots : w.veiled.slots = w.slots := rfl
  unfold releaseSlot
  rw [hslots]
  split
  · rfl
  · next n _ => exact wakeNext_veiled { w with slots := some (n + 1) }

theorem offerSlot_veiled (w : Watcher) : w.veiled.offerSlot = w.offerSlot.veiled := by
  have hslots : w.veiled.slots = w.slots := rfl
  unfold offerSlot
  rw [hslots]
  split
  · rfl
  · rfl
  · exact wakeNext_veiled w

theorem begin_veiled (w : Watcher) (run : Run) :
    w.veiled.begin run = Effect.veilState (w.begin run) := by
  have hslots : w.veiled.slots = w.slots := rfl
  have hwaiting : w.veiled.waiting = w.waiting := rfl
  unfold begin
  rw [hslots, hwaiting]
  split
  · rfl
  · split <;> rfl

theorem wake_veiled (w : Watcher) (run : Run) :
    w.veiled.wake run = Effect.veilState (w.wake run) := by
  let w' : Watcher := { w with waiting := w.waiting.filter fun waiter => waiter.run != run }
  have hoffer : w'.veiled.offerSlot = w'.offerSlot.veiled := offerSlot_veiled w'
  exact congrArg (fun other : Watcher => other.call run) hoffer

theorem unregister_veiled (w : Watcher) (run : Run) :
    w.veiled.unregister run = (w.unregister run).veiled := by
  have hregistered : w.veiled.registered? run.document = w.registered? run.document := rfl
  unfold unregister
  rw [hregistered]
  split <;> rfl

theorem close_veiled (w : Watcher) (run : Run) :
    w.veiled.close run = Effect.veilState (w.close run) := by
  have hdirty : (w.unregister run).veiled.dirty = (w.unregister run).dirty := rfl
  simp only [close, unregister_veiled, hdirty]
  split
  · let w' : Watcher :=
      { w.unregister run with dirty := (w.unregister run).dirty.filter (· != run.document) }
    have hdispatch := dispatch_veiled w' run.document
    exact congrArg (fun result : Effect × Option Run =>
      (result.1.1, .closed run :: result.1.2)) hdispatch
  · rfl

/-! ## Endings -/

/-- The end of a compilation, veiled, tells only that there was one. -/
theorem veiledTrace_closing (setup : Setup) (run : Run) (ending : Ending) :
    veiledTrace (closing setup run ending) = [.ended run none] := by
  cases ending with
  | raised fault => rfl
  | returned outcome =>
    cases hdisplay : setup.display with
    | none =>
      simp only [closing, hdisplay]
      rfl
    | some display =>
      cases hfault : display run.document outcome <;> simp only [closing, hdisplay, hfault] <;> rfl

/-- However a compilation ended, its run gives its slot back and is to be closed. -/
theorem resume_veiled (setup : Setup) (w : Watcher) (run : Run) (ending : Ending) :
    Effect.veiled (w.veiled.resume setup.veiled run .veil) =
      Effect.veiled (w.resume setup run ending) := by
  have hready : (w.releaseSlot.veiled).ready = w.releaseSlot.ready.map Job.veiled := rfl
  have hagain : ∀ jobs : List Job, (jobs.map Job.veiled).map Job.veiled = jobs.map Job.veiled := by
    intro jobs
    rw [List.map_map]
    exact List.map_congr_left fun job _ => job.veiled_veiled
  simp only [Effect.veiled, resume, veiledTrace_closing, releaseSlot_veiled, hready]
  simp only [veiled, List.map_append, hagain]

/-! ## Actions and histories -/

theorem Effect.veiled_veilState (effect : Effect) : effect.veilState.veiled = effect.veiled := by
  simp [Effect.veiled, Effect.veilState, veiled_veiled]

theorem perform_veiled (setup : Setup) (tree : Tree) (w : Watcher) (job : Job) :
    Effect.veiled (perform setup.veiled tree w.veiled job.veiled) =
      Effect.veiled (perform setup tree w job) := by
  cases job with
  | begin run =>
    simp only [perform, Job.veiled, begin_veiled, Effect.veiled_veilState]
  | wake run =>
    simp only [perform, Job.veiled, wake_veiled, Effect.veiled_veilState]
  | resume run ending => exact resume_veiled setup w run ending
  | close run =>
    simp only [perform, Job.veiled, close_veiled, Effect.veiled_veilState]
  | event kind path =>
    simp only [perform, Job.veiled, handleEvent_veiled]
    cases w.handleEvent setup tree kind path with
    | error fault => exact Effect.veiled_veilState (w, [])
    | ok result => exact Effect.veiled_veilState result.1

/-- An action does the same to a veiled watcher, as far as the veil lets see. -/
theorem act_veiled (w : Watcher) (step : Occasion) :
    Effect.veiled (w.veiled.act step.veiled.setup step.veiled.action) =
      Effect.veiled (w.act step.setup step.action) := by
  obtain ⟨setup, action⟩ := step
  cases action with
  | start tree refusal path =>
    have hstart := congrArg Prod.fst (start_veiled setup tree refusal path w)
    exact (congrArg Effect.veiled hstart).trans (Effect.veiled_veilState _)
  | event tree kind path => exact perform_veiled setup tree w (.event kind path)
  | handOver kind path =>
    have henqueue : w.veiled.enqueue kind path = (w.enqueue kind path).veiled := by
      simp [enqueue, veiled, Job.veiled]
    exact (congrArg (fun other => Effect.veiled (other, [])) henqueue).trans
      (Effect.veiled_veilState (w.enqueue kind path, []))
  | stop => exact (congrArg Effect.veiled (stop_veiled w)).trans (Effect.veiled_veilState _)
  | finish document ending =>
    have hrunning : w.veiled.running = w.running := rfl
    simp only [act, Occasion.veiled, Action.veiled, finish, hrunning]
    cases w.running.find? fun run => run.document == document with
    | none => exact Effect.veiled_veilState (w, [])
    | some run =>
      have hready : (w.ready.map Job.veiled).map Job.veiled = w.ready.map Job.veiled :=
        congrArg ready w.veiled_veiled
      simp only [Option.map_some, Option.getD_some, Effect.veiled, veiled, List.map_append, hready]
      rfl
  | job tree index =>
    have hready : w.veiled.ready = w.ready.map Job.veiled := rfl
    simp only [act, Occasion.veiled, Action.veiled, hready, List.getElem?_map]
    cases w.ready[index]? with
    | none => exact Effect.veiled_veilState (w, [])
    | some job =>
      let w' : Watcher := { w with ready := w.ready.eraseIdx index }
      have herase : { w.veiled with ready := (w.ready.map Job.veiled).eraseIdx index } =
          w'.veiled := by
        simp only [veiled, w', List.eraseIdx_map]
      simp only [Option.map_some, herase]
      exact perform_veiled setup tree w' job

/-- Occasions that look the same through the veil do the same to watchers that do, as
far as the veil lets see. -/
theorem act_congr {w w' : Watcher} {step step' : Occasion} (hw : w.veiled = w'.veiled)
    (hstep : step.veiled = step'.veiled) :
    Effect.veiled (w.act step.setup step.action) =
      Effect.veiled (w'.act step'.setup step'.action) := by
  rw [← act_veiled w step, ← act_veiled w' step', hw, hstep]

theorem playEach_congr {w w' : Watcher} {steps steps' : List Occasion}
    (hw : w.veiled = w'.veiled) (hsteps : steps.map Occasion.veiled = steps'.map Occasion.veiled) :
    Effect.veiled (playEach w steps) = Effect.veiled (playEach w' steps') := by
  induction steps generalizing w w' steps' with
  | nil =>
    have hnil : steps' = [] := List.map_eq_nil_iff.mp hsteps.symm
    subst hnil
    exact congrArg (fun other => (other, [])) hw
  | cons step rest ih =>
    obtain ⟨step', rest', rfl, hstep, hrest⟩ := List.map_eq_cons_iff.mp hsteps.symm
    have hact := act_congr hw hstep.symm
    have hstate : (w.act step.setup step.action).1.veiled =
        (w'.act step'.setup step'.action).1.veiled := congrArg Prod.fst hact
    have hreports : veiledTrace (w.act step.setup step.action).2 =
        veiledTrace (w'.act step'.setup step'.action).2 := congrArg Prod.snd hact
    have hlater := ih hstate hrest.symm
    rw [Effect.veiled, Effect.veiled, Prod.mk.injEq] at hlater
    simp only [playEach, Effect.veiled, veiledTrace_append, hreports, hlater]

end ProseCompiler.Watcher
