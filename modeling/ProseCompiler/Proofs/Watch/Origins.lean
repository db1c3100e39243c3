import ProseCompiler.Proofs.Watch.Stopping

/-!
# Where compiled documents come from

Every document that is compiled was accepted before, and every accepted document is what
a path stands for that the watcher was told of: by an event, by an event that was handed
over to be taken in its turn, or by the scan for documents that were there already.  The
path has the extension of documents, and it is seen from the root that the watcher was
started on.

`accepted_of_called` is the first half; it comes from the balance of `Moves.balance`.
The second half is an invariant of the watcher, `Sourced`, which every action keeps, and
`Traced` is what an action does besides: a root stays, and what is accepted has an origin.
-/

namespace ProseCompiler.Watcher

variable {setup : Setup} {w w' w'' : Watcher} {reports more : List Report} {tree : Tree}
  {document : Location} {standing : Standing} {kind path : Text}

/-! ## Calls and accepted events -/

theorem accepted_of_cost (h : 0 < cost reports document) :
    ∃ standing, .accepted document standing ∈ reports := by
  have hmem : ∃ standing, (document, standing) ∈ acceptances reports := by
    rw [cost] at h
    rcases Nat.add_pos_iff_pos_or_pos.mp h with hfree | hflight
    · exact ⟨.free, List.count_pos_iff.mp hfree⟩
    · exact ⟨.inFlight, List.count_pos_iff.mp hflight⟩
  obtain ⟨standing, hmem⟩ := hmem
  obtain ⟨report, hreport, haccepted⟩ := List.mem_filterMap.mp hmem
  refine ⟨standing, ?_⟩
  cases report with
  | accepted =>
    cases haccepted
    exact hreport
  | _ => cases haccepted

/-- A document whose compilation begins was accepted. -/
theorem accepted_of_called (setup : Setup) (bound : Int) (actions : List Action) {run : Run}
    (hrun : run ∈ calls (play setup (new bound) actions).2) :
    ∃ standing, .accepted run.document standing ∈ (play setup (new bound) actions).2 := by
  have hbalance := (play_follows setup actions (new_inOrder bound)).moves.balance run.document
  have hnew : (new bound).ledger.owed run.document = 0 := by simp [Ledger.owed, ledger, new]
  have hcall : 0 < callCount (play setup (new bound) actions).2 run.document :=
    List.count_pos_iff.mpr (List.mem_map_of_mem hrun)
  exact accepted_of_cost (by omega)

/-! ## What jobs leave alone -/

/-- The root stays, and no event becomes ready. -/
structure Keeps (w w' : Watcher) : Prop where
  root : w'.root = w.root
  events : ∀ {kind path}, .event kind path ∈ w'.ready → .event kind path ∈ w.ready

theorem Keeps.refl (w : Watcher) : Keeps w w := ⟨rfl, id⟩

theorem Keeps.trans (hfirst : Keeps w w') (hsecond : Keeps w' w'') : Keeps w w'' where
  root := hsecond.root.trans hfirst.root
  events := fun h => hfirst.events (hsecond.events h)

theorem wakeNext_keeps (w : Watcher) : Keeps w w.wakeNext := by
  unfold wakeNext
  split
  · exact .refl w
  · exact ⟨rfl, by simp⟩

theorem releaseSlot_keeps (w : Watcher) : Keeps w w.releaseSlot := by
  unfold releaseSlot
  split
  · exact .refl w
  · next free _ =>
    have hwake := wakeNext_keeps { w with slots := some (free + 1) }
    exact ⟨hwake.root, hwake.events⟩

theorem offerSlot_keeps (w : Watcher) : Keeps w w.offerSlot := by
  unfold offerSlot
  split
  · exact .refl w
  · exact .refl w
  · exact wakeNext_keeps w

theorem dispatch_keeps (w : Watcher) (document : Location) : Keeps w (w.dispatch document).1.1 := by
  unfold dispatch
  split
  · exact ⟨rfl, id⟩
  · exact ⟨rfl, by simp⟩

theorem begin_keeps (w : Watcher) (run : Run) : Keeps w (w.begin run).1 := by
  unfold begin
  split
  · exact ⟨rfl, id⟩
  · split <;> exact ⟨rfl, id⟩

theorem wake_keeps (w : Watcher) (run : Run) : Keeps w (w.wake run).1 := by
  have hoffer := offerSlot_keeps
    { w with waiting := w.waiting.filter fun waiter => waiter.run != run }
  exact ⟨hoffer.root, hoffer.events⟩

theorem resume_keeps (setup : Setup) (w : Watcher) (run : Run) (ending : Ending) :
    Keeps w (w.resume setup run ending).1 :=
  (releaseSlot_keeps w).trans ⟨rfl, by simp [resume]⟩

theorem close_keeps (w : Watcher) (run : Run) : Keeps w (w.close run).1 := by
  obtain ⟨inFlight, hunregister⟩ := unregister_eq w run
  unfold close
  rw [hunregister]
  simp only
  split
  · have hdispatch := dispatch_keeps
      { w with inFlight, dirty := w.dirty.filter (· != run.document) } run.document
    exact ⟨hdispatch.root, hdispatch.events⟩
  · exact ⟨rfl, id⟩

theorem finish_keeps (w : Watcher) (document : Location) (ending : Ending) :
    Keeps w ((w.finish document ending).getD w) := by
  cases h : w.finish document ending with
  | none => exact .refl w
  | some w' =>
    obtain ⟨run, -, rfl⟩ := Option.map_eq_some_iff.mp h
    exact ⟨rfl, by simp⟩

theorem handleEvent_keeps {effect : Effect} {run : Option Run}
    (h : w.handleEvent setup tree kind path = .ok (effect, run)) : Keeps w effect.1 := by
  unfold handleEvent at h
  split at h
  · split at h
    · cases h
    · next document _ =>
      have hdispatch := dispatch_keeps w document
      rcases hresult : w.dispatch document with ⟨⟨w', reports⟩, run'⟩
      rw [hresult] at h hdispatch
      cases h
      exact hdispatch
  · cases h
    exact .refl w

theorem perform_keeps (setup : Setup) (tree : Tree) (w : Watcher) (job : Job) :
    Keeps w (perform setup tree w job).1 := by
  cases job with
  | begin run => exact begin_keeps w run
  | wake run => exact wake_keeps w run
  | resume run ending => exact resume_keeps setup w run ending
  | close run => exact close_keeps w run
  | event kind path =>
    simp only [perform]
    split
    · exact .refl w
    · next h => exact handleEvent_keeps h

theorem stop_keeps (w : Watcher) : Keeps w w.stop.1 := by
  unfold stop
  split
  · exact .refl w
  · exact ⟨rfl, id⟩

/-! ## Origins -/

/-- What a watcher on a root was told in a history: that something happened at a path, on
the tree on which it took it. -/
inductive Told (setup : Setup) (actions : List Action) (root : Location) : Tree → Text → Prop
  | event {tree : Tree} {kind path : Text} (hevent : .event tree kind path ∈ actions) :
      Told setup actions root tree path
  | handedOver {tree : Tree} {index : Nat} {kind path : Text} (hevent : .handOver kind path ∈ actions)
      (hjob : .job tree index ∈ actions) : Told setup actions root tree path
  | found {tree : Tree} {refusal : Refusal} {directory : Path} {found : List (List Text)}
      {parts : List Text} (hscans : setup.scansFirst = true)
      (hstart : .start tree refusal directory ∈ actions) (hroot : tree.resolve directory = .ok root)
      (hfound : tree.search root (namePattern setup) = .ok found) (hparts : parts ∈ found)
      (hfile : tree.isFile (Tree.pathBelow root parts) = .ok true) :
      Told setup actions root tree (Path.text ⟨.relative, parts⟩)

/-- A document is what a path with the right extension stands for that the watcher was
told of. -/
structure Origin (setup : Setup) (actions : List Action) (root : Location) (tree : Tree)
    (path : Text) (document : Location) : Prop where
  told : Told setup actions root tree path
  extension : Text.endsWith path setup.extension = true
  resolved : documentAt tree root path = .ok document

/-- A watcher that is watching has a root, one that was not started has none, and the
events that are ready were handed over. -/
structure Sourced (actions : List Action) (w : Watcher) : Prop where
  idle : w.phase = .idle → w.root = none
  watching : w.phase = .watching → w.root ≠ none
  handed : ∀ {kind path}, .event kind path ∈ w.ready → .handOver kind path ∈ actions

/-- The root stays, and what is accepted has an origin. -/
structure Traced (setup : Setup) (actions : List Action) (w : Watcher) (effect : Effect) : Prop where
  sourced : effect.1.Sourced actions
  root : ∀ root, w.root = some root → effect.1.root = some root
  accepted : ∀ {document standing}, .accepted document standing ∈ effect.2 →
    ∃ root tree path, effect.1.root = some root ∧ Origin setup actions root tree path document

variable {actions : List Action}

theorem Traced.refl (hw : w.Sourced actions) : Traced setup actions w (w, []) :=
  ⟨hw, fun _ h => h, fun h => absurd h List.not_mem_nil⟩

theorem Traced.trans (hfirst : Traced setup actions w (w', reports))
    (hsecond : Traced setup actions w' (w'', more)) :
    Traced setup actions w (w'', reports ++ more) where
  sourced := hsecond.sourced
  root := fun root h => hsecond.root root (hfirst.root root h)
  accepted := by
    intro document standing haccepted
    rcases List.mem_append.mp haccepted with haccepted | haccepted
    · obtain ⟨root, tree, path, hroot, horigin⟩ := hfirst.accepted haccepted
      exact ⟨root, tree, path, hsecond.root root hroot, horigin⟩
    · exact hsecond.accepted haccepted

theorem Sourced.keeps (hw : w.Sourced actions) (hphase : w'.phase = w.phase)
    (hkeeps : Keeps w w') : w'.Sourced actions where
  idle := by
    rw [hphase, hkeeps.root]
    exact hw.idle
  watching := by
    rw [hphase, hkeeps.root]
    exact hw.watching
  handed := fun h => hw.handed (hkeeps.events h)

/-! ## Jobs -/

theorem not_accepted {effect : Effect} (h : Internal w effect) :
    .accepted document standing ∉ effect.2 := by
  intro hmem
  have hnone : (document, standing) ∈ acceptances effect.2 :=
    List.mem_filterMap.mpr ⟨_, hmem, rfl⟩
  rw [h.accepted] at hnone
  cases hnone

/-- Only a job that takes an event accepts one. -/
theorem accepted_of_perform {job : Job}
    (h : .accepted document standing ∈ (perform setup tree w job).2) :
    ∃ kind path, job = .event kind path ∧ w.accepts setup kind path = true ∧
      documentAt tree (w.root.getD []) path = .ok document := by
  cases job with
  | begin run => exact absurd h (not_accepted (begin_internal w run))
  | wake run => exact absurd h (not_accepted (wake_internal w run))
  | resume run ending => exact absurd h (not_accepted (resume_internal setup w run ending))
  | close run => exact absurd h (not_accepted (close_internal w run))
  | event kind path =>
    obtain ⟨haccepts, hdocument, -⟩ := accepted_mem_event_iff.mp h
    exact ⟨kind, path, rfl, haccepts, hdocument⟩

theorem accepts_iff : w.accepts setup kind path = true ↔
    w.phase = .watching ∧ (kind = added ∨ kind = changed) ∧
      Text.endsWith path setup.extension = true := by
  simp [accepts, isWatching, and_assoc]

/-- A job that takes what the watcher was told of accepts documents with an origin. -/
theorem perform_traced (setup : Setup) (tree : Tree) (job : Job) (hw : w.Sourced actions)
    (htold : ∀ {kind path root}, job = .event kind path → w.root = some root →
      Told setup actions root tree path) :
    Traced setup actions w (perform setup tree w job) where
  sourced := hw.keeps (perform_steady setup tree w job).phase (perform_keeps setup tree w job)
  root := fun root h => (perform_keeps setup tree w job).root.trans h
  accepted := by
    intro document standing haccepted
    obtain ⟨kind, path, hjob, haccepts, hdocument⟩ := accepted_of_perform haccepted
    obtain ⟨hphase, -, hextension⟩ := accepts_iff.mp haccepts
    obtain ⟨root, hroot⟩ := Option.ne_none_iff_exists'.mp (hw.watching hphase)
    rw [hroot, Option.getD_some] at hdocument
    exact ⟨root, tree, path, (perform_keeps setup tree w job).root.trans hroot,
      htold hjob hroot, hextension, hdocument⟩

/-! ## Starting and stopping -/

theorem Traced.notes (hw : w.Sourced actions) (h : ∀ report ∈ reports, report.IsNote) :
    Traced setup actions w (w, reports) :=
  ⟨hw, fun _ hroot => hroot, fun haccepted => (h _ haccepted).elim⟩

/-- Scanning a root accepts documents with an origin. -/
theorem scan_traced (hw : w.Sourced actions) {root : Location} (hroot : w.root = some root)
    {refusal : Refusal} {directory : Path} (hstart : .start tree refusal directory ∈ actions)
    (hresolve : tree.resolve directory = .ok root) :
    Traced setup actions w (scan setup tree root w).1 := by
  refine scan_induction (P := fun w effect =>
    w.Sourced actions → w.root = some root → Traced setup actions w effect)
    (fun w hw _ => .refl hw) (fun hfirst hsecond hw hroot => ?_)
    (fun hscans hfound hparts hfile hevent hw hroot => ?_) w hw hroot
  · have hfirst := hfirst hw hroot
    exact hfirst.trans (hsecond hfirst.sourced (hfirst.root root hroot))
  · next parts w effect run =>
    have hperform : perform setup tree w (.event added (Path.text ⟨.relative, parts⟩)) = effect := by
      simp only [perform, hevent]
    rw [← hperform]
    refine perform_traced setup tree _ hw fun hjob hother => ?_
    cases hjob
    cases hroot.symm.trans hother
    exact .found hscans hstart hresolve hfound hparts hfile

theorem observe_traced (setup : Setup) (hw : w.Sourced actions) {root : Location} (hroot : w.root = some root)
    {refusal : Refusal} {directory : Path} (hstart : .start tree refusal directory ∈ actions)
    (hresolve : tree.resolve directory = .ok root) :
    Traced setup actions w (observe setup tree refusal root w).1 := by
  have hobserver : ∀ call, (Report.observer call).IsNote := fun _ => trivial
  cases hschedule : refusal (.schedule (Location.text root)) with
  | some fault =>
    simp only [observe, hschedule]
    exact .notes hw (by simp [hobserver])
  | none =>
    cases hgoing : refusal .start with
    | some fault =>
      simp only [observe, hschedule, hgoing]
      exact .notes hw (by simp [hobserver])
    | none =>
      simp only [observe, hschedule, hgoing]
      exact Traced.trans (.notes hw (by simp [hobserver, entry_isNote]))
        (scan_traced hw hroot hstart hresolve)

theorem start_traced (hw : w.Sourced actions) {refusal : Refusal} {directory : Path}
    (hstart : .start tree refusal directory ∈ actions) :
    Traced setup actions w (w.start setup tree refusal directory).1 := by
  unfold start
  split
  · exact .refl hw
  · next hphase =>
    split
    · exact .refl hw
    · next root hresolve =>
      split
      · exact .refl hw
      · exact .refl hw
      · have hnone : w.root = none := hw.idle (not_not.mp hphase)
        have hwatching : Sourced actions
            { w with phase := .watching, root := some root, isObserving := true } :=
          ⟨fun h => (by cases h), fun _ h => (by cases h), hw.handed⟩
        obtain ⟨hsourced, -, haccepted⟩ :=
          observe_traced setup hwatching rfl hstart hresolve
        exact ⟨hsourced, fun other hother => by simp [hnone] at hother, haccepted⟩

theorem stop_traced (hw : w.Sourced actions) : Traced setup actions w w.stop where
  sourced :=
    ⟨fun h => (by simp [stop_phase] at h), fun h => (by simp [stop_phase] at h),
      fun h => hw.handed ((stop_keeps w).events h)⟩
  root := fun _ h => (stop_keeps w).root.trans h
  accepted := by
    intro document standing haccepted
    unfold stop at haccepted
    split at haccepted
    · cases haccepted
    · rcases List.mem_append.mp haccepted with h | h <;> split at h <;> simp [entry] at h

/-! ## Actions and histories -/

/-- What every action accepts has an origin in the history that it is part of. -/
theorem act_traced (setup : Setup) (hw : w.Sourced actions) {action : Action} (haction : action ∈ actions) :
    Traced setup actions w (w.act setup action) := by
  cases action with
  | start tree refusal directory => exact start_traced hw haction
  | event tree kind path =>
    have htraced : Traced setup actions w (perform setup tree w (.event kind path)) := by
      refine perform_traced setup tree _ hw fun hjob _ => ?_
      cases hjob
      exact .event haction
    exact htraced
  | handOver kind path =>
    refine ⟨⟨hw.idle, hw.watching, fun {other place} h => ?_⟩, fun _ h => h,
      fun h => absurd h List.not_mem_nil⟩
    rcases List.mem_append.mp h with h | h
    · exact hw.handed h
    · cases List.mem_singleton.mp h
      exact haction
  | stop => exact stop_traced hw
  | finish document ending =>
    have hphase := (finish_internal w document ending).phase
    have hkeeps := finish_keeps w document ending
    exact ⟨hw.keeps hphase hkeeps, fun _ h => hkeeps.root.trans h,
      fun h => absurd h List.not_mem_nil⟩
  | job tree index =>
    simp only [act]
    split
    · exact .refl hw
    · next job hjob =>
      have hready : job ∈ w.ready := List.mem_of_getElem? hjob
      have hw' : Sourced actions { w with ready := w.ready.eraseIdx index } :=
        ⟨hw.idle, hw.watching, fun h => hw.handed (List.mem_of_mem_eraseIdx h)⟩
      obtain ⟨hsourced, hroot, haccepted⟩ := perform_traced setup tree job hw' fun hevent _ =>
        .handedOver (hw.handed (hevent ▸ hready)) haction
      exact ⟨hsourced, hroot, haccepted⟩

theorem play_traced (hw : w.Sourced actions) {history : List Action}
    (hhistory : ∀ action ∈ history, action ∈ actions) :
    Traced setup actions w (play setup w history) := by
  induction history generalizing w with
  | nil => exact .refl hw
  | cons action rest ih =>
    have hfirst := act_traced setup hw (hhistory action List.mem_cons_self)
    exact hfirst.trans
      (ih hfirst.sourced fun other hother => hhistory other (List.mem_cons_of_mem action hother))

theorem new_sourced (bound : Int) (actions : List Action) : (new bound).Sourced actions :=
  ⟨fun _ => rfl, fun h => (by cases h), fun h => absurd h List.not_mem_nil⟩

/-- A document whose compilation begins is what a path stands for that the watcher was
told of, seen from the root that it was started on. -/
theorem origin_of_called (setup : Setup) (bound : Int) (actions : List Action) {run : Run}
    (hrun : run ∈ calls (play setup (new bound) actions).2) :
    ∃ root tree path, (play setup (new bound) actions).1.root = some root ∧
      Origin setup actions root tree path run.document := by
  obtain ⟨standing, haccepted⟩ := accepted_of_called setup bound actions hrun
  exact (play_traced (new_sourced bound actions) fun _ h => h).accepted haccepted

end ProseCompiler.Watcher
