import ProseCompiler.Proofs.Watch.Bookkeeping

/-!
# What comes from outside

Starting and stopping a watcher, telling it of changes, and closing a run have
one thing in common: they touch neither slots nor waiters nor compilations.  They
can only dispatch runs, and each run that they dispatch gets one job that begins
it, behind all jobs that are ready.

`TakesIn` says so of an effect.  What is said of slots and of the order of runs
has to be shown of the other steps alone.
-/

namespace ProseCompiler.Watcher

theorem dispatches_append (first second : List Report) :
    dispatches (first ++ second) = dispatches first ++ dispatches second :=
  List.filterMap_append ..

theorem calls_append (first second : List Report) :
    calls (first ++ second) = calls first ++ calls second :=
  List.filterMap_append ..

/-- Reports that tell of no run. -/
theorem no_runs_of_asides {reports : List Report} (h : ∀ report ∈ reports, report.IsAside) :
    dispatches reports = [] ∧ calls reports = [] := by
  constructor
  · exact List.filterMap_eq_nil_iff.mpr fun report hreport => (h report hreport).tells_nothing.1
  · exact List.filterMap_eq_nil_iff.mpr fun report hreport => (h report hreport).tells_nothing.2.1

/-- An effect that only dispatches runs. -/
structure TakesIn (w : Watcher) (effect : Effect) : Prop where
  slots : effect.1.slots = w.slots
  waiting : effect.1.waiting = w.waiting
  running : effect.1.running = w.running
  begins : effect.1.ready.filterMap Job.begins? =
    w.ready.filterMap Job.begins? ++ dispatches effect.2
  wakes : effect.1.ready.filterMap Job.wakes? = w.ready.filterMap Job.wakes?
  resumes : effect.1.ready.filterMap Job.resumes? = w.ready.filterMap Job.resumes?
  calls : calls effect.2 = []

namespace TakesIn

variable {w w' w'' : Watcher} {reports more : List Report}

/-- Nothing but asides is reported, and no job comes or goes. -/
theorem asides (hslots : w'.slots = w.slots) (hwaiting : w'.waiting = w.waiting)
    (hrunning : w'.running = w.running) (hready : w'.ready = w.ready)
    (hreports : ∀ report ∈ reports, report.IsAside) : TakesIn w (w', reports) := by
  obtain ⟨hdispatches, hcalls⟩ := no_runs_of_asides hreports
  exact ⟨hslots, hwaiting, hrunning, by simp [hready, hdispatches], by rw [hready],
    by rw [hready], hcalls⟩

theorem refl (w : Watcher) : TakesIn w (w, []) := asides rfl rfl rfl rfl (by simp)

theorem trans (hfirst : TakesIn w (w', reports)) (hsecond : TakesIn w' (w'', more)) :
    TakesIn w (w'', reports ++ more) where
  slots := hsecond.slots.trans hfirst.slots
  waiting := hsecond.waiting.trans hfirst.waiting
  running := hsecond.running.trans hfirst.running
  begins := by
    have hbegins := hsecond.begins
    rw [hfirst.begins] at hbegins
    rw [hbegins, dispatches_append, List.append_assoc]
  wakes := hsecond.wakes.trans hfirst.wakes
  resumes := hsecond.resumes.trans hfirst.resumes
  calls := by rw [calls_append, hfirst.calls, hsecond.calls, List.append_nil]

/-- A report that tells neither of a dispatch nor of a call may come first. -/
theorem cons {report : Report} (h : TakesIn w (w', reports))
    (hdispatched : report.dispatched? = none) (hcalled : report.called? = none) :
    TakesIn w (w', report :: reports) where
  slots := h.slots
  waiting := h.waiting
  running := h.running
  begins := by
    rw [dispatches, List.filterMap_cons_none hdispatched]
    exact h.begins
  wakes := h.wakes
  resumes := h.resumes
  calls := by
    rw [Watcher.calls, List.filterMap_cons_none hcalled]
    exact h.calls

end TakesIn

/-! ## Events -/

theorem dispatch_takesIn (w : Watcher) (document : Location) :
    TakesIn w (w.dispatch document).1 := by
  unfold dispatch
  split
  · refine .asides rfl rfl rfl rfl ?_
    simp [coalesced, entry_isAside]
  · constructor <;> simp [dispatches, calls, Report.dispatched?, Report.called?, Job.begins?,
      Job.wakes?, Job.resumes?, List.filterMap_cons]

theorem handleEvent_takesIn {setup : Setup} {tree : Tree} {w : Watcher} {kind path : Text}
    {effect : Effect} {run : Option Run}
    (h : w.handleEvent setup tree kind path = .ok (effect, run)) : TakesIn w effect := by
  unfold handleEvent at h
  split at h
  · split at h
    · cases h
    · rename_i document _
      have hdispatch := dispatch_takesIn w document
      rcases hresult : w.dispatch document with ⟨⟨w', reports⟩, run'⟩
      rw [hresult] at h hdispatch
      cases h
      exact (hdispatch.cons rfl rfl).cons rfl rfl
  · cases h
    exact .refl w

/-- Starting and stopping, and every event, only dispatch runs. -/
theorem takesIn_additive (setup : Setup) : Additive setup TakesIn where
  notes := fun hreports =>
    .asides rfl rfl rfl rfl fun report hreport => (hreports report hreport).isAside
  trans := TakesIn.trans
  event := handleEvent_takesIn

theorem enqueue_takesIn (w : Watcher) (kind path : Text) :
    TakesIn w (w.enqueue kind path, []) := by
  constructor <;> simp [enqueue, dispatches, calls, Job.begins?, Job.wakes?, Job.resumes?,
    List.filterMap_cons]

/-! ## Closing -/

theorem unregister_eq (w : Watcher) (run : Run) :
    ∃ inFlight, w.unregister run = { w with inFlight } := by
  unfold unregister
  split
  · exact ⟨_, rfl⟩
  · exact ⟨w.inFlight, rfl⟩

theorem close_takesIn (w : Watcher) (run : Run) : TakesIn w (w.close run) := by
  obtain ⟨inFlight, hunregister⟩ := unregister_eq w run
  unfold close
  rw [hunregister]
  simp only
  split
  · let w' : Watcher := { w with inFlight, dirty := w.dirty.filter (· != run.document) }
    have hdispatch : TakesIn w' (w'.dispatch run.document).1 := dispatch_takesIn w' run.document
    exact TakesIn.cons { hdispatch with } rfl rfl
  · exact TakesIn.cons (.asides rfl rfl rfl rfl (by simp)) rfl rfl

end ProseCompiler.Watcher
