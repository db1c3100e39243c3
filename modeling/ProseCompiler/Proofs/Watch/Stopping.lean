import ProseCompiler.Proofs.Watch.Coalescing

/-!
# What stopping leaves to be done

A stopped watcher takes nothing in: it stays stopped, ignores events, refuses to
be started, and asks nothing more of the observer.  The work that it had accepted
goes on.  Until no run is registered, the compilations that begin are one for each
run that had not begun when the watcher was stopped, and one for each document
that was dirty then.

The first half is an invariant of the life of a watcher, `Lives`, which every
action keeps (`act_lives`).  The second half comes from the balance of
`Moves.balance`: a stopped watcher accepts no event, so what begins is what was
owed.
-/

namespace ProseCompiler.Watcher

variable {setup : Setup} {w w' w'' : Watcher} {reports more trace : List Report}

/-! ## What a trace tells of the observer -/

/-- What a report says was asked of the observer. -/
def Report.observer? : Report → Option ObserverCall
  | .observer call => some call
  | _ => none

/-- What was asked of the observer, in this order. -/
def observerCalls (trace : List Report) : List ObserverCall := trace.filterMap Report.observer?

/-- The events that were accepted, in this order. -/
def acceptances (trace : List Report) : List (Location × Standing) :=
  trace.filterMap Report.accepted?

@[simp] theorem observerCalls_append (first second : List Report) :
    observerCalls (first ++ second) = observerCalls first ++ observerCalls second :=
  List.filterMap_append ..

@[simp] theorem acceptances_append (first second : List Report) :
    acceptances (first ++ second) = acceptances first ++ acceptances second :=
  List.filterMap_append ..

/-- Without accepted events there is no cost. -/
theorem cost_eq_zero (h : acceptances trace = []) (document : Location) :
    cost trace document = 0 := by
  simp only [acceptances] at h
  simp [cost, acceptanceCount, h]

/-! ## Effects that neither start nor stop -/

/-- The watcher goes on living as it did, and nothing is asked of the observer. -/
structure Steady (w : Watcher) (effect : Effect) : Prop where
  phase : effect.1.phase = w.phase
  isObserving : effect.1.isObserving = w.isObserving
  observer : observerCalls effect.2 = []

namespace Steady

theorem refl (w : Watcher) : Steady w (w, []) := ⟨rfl, rfl, rfl⟩

theorem trans (hfirst : Steady w (w', reports)) (hsecond : Steady w' (w'', more)) :
    Steady w (w'', reports ++ more) where
  phase := hsecond.phase.trans hfirst.phase
  isObserving := hsecond.isObserving.trans hfirst.isObserving
  observer := by rw [observerCalls_append, hfirst.observer, hsecond.observer, List.append_nil]

end Steady

/-- No event is accepted either. -/
structure Internal (w : Watcher) (effect : Effect) : Prop extends Steady w effect where
  accepted : acceptances effect.2 = []

theorem wakeNext_life (w : Watcher) :
    w.wakeNext.phase = w.phase ∧ w.wakeNext.isObserving = w.isObserving := by
  unfold wakeNext
  split <;> exact ⟨rfl, rfl⟩

theorem releaseSlot_life (w : Watcher) :
    w.releaseSlot.phase = w.phase ∧ w.releaseSlot.isObserving = w.isObserving := by
  unfold releaseSlot
  split
  · exact ⟨rfl, rfl⟩
  · exact wakeNext_life _

theorem offerSlot_life (w : Watcher) :
    w.offerSlot.phase = w.phase ∧ w.offerSlot.isObserving = w.isObserving := by
  unfold offerSlot
  split
  · exact ⟨rfl, rfl⟩
  · exact ⟨rfl, rfl⟩
  · exact wakeNext_life w

theorem dispatch_internal (w : Watcher) (document : Location) :
    Internal w (w.dispatch document).1 := by
  unfold dispatch
  split <;> exact ⟨⟨rfl, rfl, rfl⟩, rfl⟩

theorem begin_internal (w : Watcher) (run : Run) : Internal w (w.begin run) := by
  unfold begin
  split
  · exact ⟨⟨rfl, rfl, rfl⟩, rfl⟩
  · split <;> exact ⟨⟨rfl, rfl, rfl⟩, rfl⟩

theorem wake_internal (w : Watcher) (run : Run) : Internal w (w.wake run) := by
  obtain ⟨hphase, hobserving⟩ :=
    offerSlot_life { w with waiting := w.waiting.filter fun waiter => waiter.run != run }
  exact ⟨⟨hphase, hobserving, rfl⟩, rfl⟩

theorem closing_internal (setup : Setup) (run : Run) (ending : Ending) :
    observerCalls (closing setup run ending) = [] ∧
      acceptances (closing setup run ending) = [] := by
  cases ending with
  | raised fault => exact ⟨rfl, rfl⟩
  | returned outcome =>
    cases hdisplay : setup.display with
    | none =>
      simp [closing, hdisplay, observerCalls, acceptances, Report.observer?, Report.accepted?]
    | some display =>
      cases hfault : display run.document outcome <;>
        simp [closing, hdisplay, hfault, observerCalls, acceptances, Report.observer?,
          Report.accepted?, unshown, entry]

theorem resume_internal (setup : Setup) (w : Watcher) (run : Run) (ending : Ending) :
    Internal w (w.resume setup run ending) := by
  obtain ⟨hphase, hobserving⟩ := releaseSlot_life w
  obtain ⟨hobserver, haccepted⟩ := closing_internal setup run ending
  exact ⟨⟨hphase, hobserving, hobserver⟩, haccepted⟩

theorem close_internal (w : Watcher) (run : Run) : Internal w (w.close run) := by
  obtain ⟨inFlight, hunregister⟩ := unregister_eq w run
  unfold close
  rw [hunregister]
  simp only
  split
  · let w' : Watcher := { w with inFlight, dirty := w.dirty.filter (· != run.document) }
    have hdispatch : Internal w' (w'.dispatch run.document).1 := dispatch_internal w' run.document
    exact ⟨⟨hdispatch.phase, hdispatch.isObserving, hdispatch.observer⟩, hdispatch.accepted⟩
  · exact ⟨⟨rfl, rfl, rfl⟩, rfl⟩

theorem finish_internal (w : Watcher) (document : Location) (ending : Ending) :
    Internal w ((w.finish document ending).getD w, []) := by
  cases h : w.finish document ending with
  | none => exact ⟨.refl w, rfl⟩
  | some w' =>
    obtain ⟨run, -, rfl⟩ := Option.map_eq_some_iff.mp h
    exact ⟨⟨rfl, rfl, rfl⟩, rfl⟩

/-! ## Events and additions -/

theorem handleEvent_steady {tree : Tree} {kind path : Text} {effect : Effect} {run : Option Run}
    (h : w.handleEvent setup tree kind path = .ok (effect, run)) : Steady w effect := by
  unfold handleEvent at h
  split at h
  · split at h
    · cases h
    · next document _ =>
      have hdispatch := dispatch_internal w document
      rcases hresult : w.dispatch document with ⟨⟨w', reports⟩, run'⟩
      rw [hresult] at h hdispatch
      cases h
      exact ⟨hdispatch.phase, hdispatch.isObserving, hdispatch.observer⟩
  · cases h
    exact .refl w

theorem perform_steady (setup : Setup) (tree : Tree) (w : Watcher) (job : Job) :
    Steady w (perform setup tree w job) := by
  cases job with
  | begin run => exact (begin_internal w run).toSteady
  | wake run => exact (wake_internal w run).toSteady
  | resume run ending => exact (resume_internal setup w run ending).toSteady
  | close run => exact (close_internal w run).toSteady
  | event kind path =>
    simp only [perform]
    split
    · exact .refl w
    · next h => exact handleEvent_steady h

theorem scan_steady (setup : Setup) (tree : Tree) (root : Location) (w : Watcher) :
    Steady w (scan setup tree root w).1 :=
  scan_induction .refl .trans (fun _ _ _ _ h => handleEvent_steady h) w

/-! ## The life of a watcher -/

/-- How the phase, whether there is an observer, and what was asked of it go
together.  An observer that was asked for anything is stopped once, when the
watcher is. -/
inductive Life : Phase → (isObserving : Bool) → List ObserverCall → Prop
  | idle : Life .idle false []
  | watching {calls} (hrunning : .stop ∉ calls) : Life .watching true calls
  | neverStarted : Life .stopped false []
  | stopped {calls} (honce : calls.count .stop = 1) : Life .stopped false calls

theorem Life.of_idle {isObserving : Bool} {calls : List ObserverCall}
    (h : Life .idle isObserving calls) : isObserving = false ∧ calls = [] := by
  cases h
  exact ⟨rfl, rfl⟩

theorem Life.of_watching {isObserving : Bool} {calls : List ObserverCall}
    (h : Life .watching isObserving calls) : isObserving = true ∧ .stop ∉ calls := by
  cases h with
  | watching hrunning => exact ⟨rfl, hrunning⟩

theorem Life.of_stopped {isObserving : Bool} {calls : List ObserverCall}
    (h : Life .stopped isObserving calls) : calls = [] ∨ calls.count .stop = 1 := by
  cases h with
  | neverStarted => exact .inl rfl
  | stopped honce => exact .inr honce

/-- A watcher lives as the trace that leads to it tells. -/
def Lives (trace : List Report) (w : Watcher) : Prop :=
  Life w.phase w.isObserving (observerCalls trace)

theorem Steady.lives {effect : Effect} (h : Steady w effect) (hw : w.Lives trace) :
    effect.1.Lives (trace ++ effect.2) := by
  rw [Lives, h.phase, h.isObserving, observerCalls_append, h.observer, List.append_nil]
  exact hw

theorem observe_life (setup : Setup) (tree : Tree) (refusal : Refusal) (root : Location)
    (w : Watcher) :
    (observe setup tree refusal root w).1.1.phase = w.phase ∧
      (observe setup tree refusal root w).1.1.isObserving = w.isObserving ∧
      .stop ∉ observerCalls (observe setup tree refusal root w).1.2 := by
  have hopening : ∀ calls : List ObserverCall, .stop ∉ calls →
      .stop ∉ observerCalls (calls.map Report.observer) := by
    intro calls hcalls
    simpa [observerCalls, List.filterMap_map, Function.comp_def, Report.observer?] using hcalls
  cases hschedule : refusal (.schedule (Location.text root)) with
  | some fault =>
    simp only [observe, hschedule]
    exact ⟨trivial, trivial, hopening [_] (by simp)⟩
  | none =>
    cases hstart : refusal .start with
    | some fault =>
      simp only [observe, hschedule, hstart]
      exact ⟨trivial, trivial, hopening [_, _] (by simp)⟩
    | none =>
      have hscan := scan_steady setup tree root w
      simp only [observe, hschedule, hstart]
      refine ⟨hscan.phase, hscan.isObserving, ?_⟩
      rw [observerCalls_append, hscan.observer, List.append_nil]
      exact hopening [_, _] (by simp)

theorem start_lives (setup : Setup) (tree : Tree) (refusal : Refusal) (path : Path)
    (hw : w.Lives trace) :
    (w.start setup tree refusal path).1.1.Lives
      (trace ++ (w.start setup tree refusal path).1.2) := by
  unfold start
  split
  · simpa using hw
  · next hphase =>
    split
    · simpa using hw
    · split
      · simpa using hw
      · simpa using hw
      · next root _ _ _ =>
        obtain ⟨hwatching, hobserving, hrunning⟩ := observe_life setup tree refusal root
          { w with phase := .watching, root := some root, isObserving := true }
        have hidle : w.phase = .idle := by simpa using hphase
        rw [Lives, hidle] at hw
        rw [Lives, observerCalls_append, hw.of_idle.2, hwatching, hobserving, List.nil_append]
        exact .watching hrunning

theorem stop_lives (hw : w.Lives trace) : w.stop.1.Lives (trace ++ w.stop.2) := by
  rw [Lives] at hw
  cases hphase : w.phase with
  | stopped => simpa [stop, hphase, Lives] using hw
  | idle =>
    rw [hphase] at hw
    obtain ⟨hobserving, hcalls⟩ := hw.of_idle
    simp only [stop, hphase, hobserving, isWatching, Lives, observerCalls_append, hcalls]
    exact .neverStarted
  | watching =>
    rw [hphase] at hw
    obtain ⟨hobserving, hrunning⟩ := hw.of_watching
    simp only [stop, hphase, hobserving, isWatching, Lives, observerCalls_append]
    refine .stopped ?_
    rw [List.count_append, List.count_eq_zero_of_not_mem hrunning]
    rfl

/-- Every action keeps how a watcher lives. -/
theorem act_lives (setup : Setup) (action : Action) (hw : w.Lives trace) :
    (w.act setup action).1.Lives (trace ++ (w.act setup action).2) := by
  cases action with
  | start tree refusal path => exact start_lives setup tree refusal path hw
  | event tree kind path => exact (perform_steady setup tree w (.event kind path)).lives hw
  | handOver kind path =>
    have hsteady : Steady w (w.enqueue kind path, []) := ⟨rfl, rfl, rfl⟩
    exact hsteady.lives hw
  | stop => exact stop_lives hw
  | finish document ending => exact (finish_internal w document ending).toSteady.lives hw
  | job tree index =>
    simp only [act]
    split
    · simpa using hw
    · next job _ =>
      let w' : Watcher := { w with ready := w.ready.eraseIdx index }
      have hsteady : Steady w' (perform setup tree w' job) := perform_steady setup tree w' job
      exact hsteady.lives hw

theorem play_lives (setup : Setup) (actions : List Action) (hw : w.Lives trace) :
    (play setup w actions).1.Lives (trace ++ (play setup w actions).2) := by
  induction actions generalizing w trace with
  | nil => simpa [play] using hw
  | cons action rest ih =>
    have hlater := ih (act_lives setup action hw)
    rwa [List.append_assoc] at hlater

theorem new_lives (bound : Int) : (new bound).Lives [] := .idle

/-! ## Stopped watchers -/

theorem handleEvent_of_stopped (hw : w.phase = .stopped) (tree : Tree) (kind path : Text) :
    w.handleEvent setup tree kind path = .ok ((w, []), none) := by
  simp [handleEvent, accepts, isWatching, hw]

theorem start_of_stopped (hw : w.phase = .stopped) (tree : Tree) (refusal : Refusal)
    (path : Path) :
    w.start setup tree refusal path =
      ((w, []), .error (.reported (.watcherState "stopped" "start"))) := by
  rw [start, if_pos (by rw [hw]; decide), hw]
  rfl

theorem stop_of_stopped (hw : w.phase = .stopped) : w.stop = (w, []) := by
  simp [stop, hw]

theorem stop_phase (w : Watcher) : w.stop.1.phase = .stopped := by
  unfold stop
  split
  · assumption
  · rfl

/-- A job of a stopped watcher accepts nothing. -/
theorem perform_internal_of_stopped (tree : Tree) (job : Job) (hw : w.phase = .stopped) :
    Internal w (perform setup tree w job) := by
  cases job with
  | begin run => exact begin_internal w run
  | wake run => exact wake_internal w run
  | resume run ending => exact resume_internal setup w run ending
  | close run => exact close_internal w run
  | event kind path =>
    rw [perform, handleEvent_of_stopped hw]
    exact ⟨.refl w, rfl⟩

theorem act_internal_of_stopped (action : Action) (hw : w.phase = .stopped) :
    Internal w (w.act setup action) := by
  cases action with
  | start tree refusal path =>
    rw [act, start_of_stopped hw]
    exact ⟨.refl w, rfl⟩
  | event tree kind path => exact perform_internal_of_stopped tree (.event kind path) hw
  | handOver kind path => exact ⟨⟨rfl, rfl, rfl⟩, rfl⟩
  | stop =>
    rw [act, stop_of_stopped hw]
    exact ⟨.refl w, rfl⟩
  | finish document ending => exact finish_internal w document ending
  | job tree index =>
    simp only [act]
    split
    · exact ⟨.refl w, rfl⟩
    · next job _ =>
      let w' : Watcher := { w with ready := w.ready.eraseIdx index }
      have hjob : Internal w' (perform setup tree w' job) :=
        perform_internal_of_stopped tree job hw
      exact ⟨⟨hjob.phase, hjob.isObserving, hjob.observer⟩, hjob.accepted⟩

/-- A stopped watcher stays as it is, and takes nothing in. -/
theorem play_internal_of_stopped (actions : List Action) (hw : w.phase = .stopped) :
    Internal w (play setup w actions) := by
  induction actions generalizing w with
  | nil => exact ⟨.refl w, rfl⟩
  | cons action rest ih =>
    have hfirst : Internal w (w.act setup action) := act_internal_of_stopped action hw
    have hrest : Internal (w.act setup action).1 (play setup (w.act setup action).1 rest) :=
      ih (hfirst.phase.trans hw)
    refine ⟨hfirst.toSteady.trans hrest.toSteady, ?_⟩
    simp only [play, acceptances_append, hfirst.accepted, hrest.accepted, List.append_nil]

/-! ## What is owed when a watcher is stopped -/

/-- The runs that were dispatched and whose compilation has not begun. -/
def uncalled (trace : List Report) : List Run :=
  (dispatches trace).filter fun run => run ∉ calls trace

namespace Ledger

variable {l l' : Ledger} {run : Run}

/-- No document is dirty twice. -/
theorem Move.nodup_dirty (hmove : Move l reports l') (hl : l.dirty.Nodup) : l'.dirty.Nodup := by
  cases hmove with
  | aside | merge | dispatch | call | finish => exact hl
  | mark _ hclean => exact nodup_concat hl hclean
  | close | renew => exact hl.filter _

theorem Moves.nodup_dirty (hmoves : Moves l reports l') (hl : l.dirty.Nodup) :
    l'.dirty.Nodup := by
  induction hmoves with
  | refl => exact hl
  | step move _ ih => exact ih (move.nodup_dirty hl)

/-- A run that has not begun, or is dispatched, has not begun after the move or is
called by it. -/
theorem Move.unbegun_or_called (hmove : Move l reports l')
    (hrun : run ∈ l.unbegun ∨ run ∈ dispatches reports) :
    run ∈ l'.unbegun ∨ run ∈ calls reports := by
  cases hmove with
  | aside haside => simpa [dispatches, calls, haside.tells_nothing] using hrun
  | merge | mark | finish | close =>
    exact .inl (hrun.resolve_right (by simp [dispatches, Report.dispatched?]))
  | dispatch | renew =>
    rcases hrun with hrun | hrun
    · exact .inl (Multiset.mem_cons_of_mem hrun)
    · rw [show run = _ from List.mem_singleton.mp hrun]
      exact .inl (Multiset.mem_cons_self _ _)
  | @call other =>
    have hrun := hrun.resolve_right (by simp [dispatches, Report.dispatched?])
    by_cases hsame : run = other
    · exact .inr (by simp [calls, Report.called?, hsame])
    · exact .inl ((Multiset.mem_erase_of_ne hsame).mpr hrun)

theorem Moves.unbegun_or_called (hmoves : Moves l reports l')
    (hrun : run ∈ l.unbegun ∨ run ∈ dispatches reports) :
    run ∈ l'.unbegun ∨ run ∈ calls reports := by
  induction hmoves with
  | refl => simpa [dispatches, calls] using hrun
  | step move _ ih =>
    rw [dispatches_append, List.mem_append, ← or_assoc] at hrun
    rw [calls_append, List.mem_append]
    rcases hrun with hfirst | hlater
    · rcases move.unbegun_or_called hfirst with hunbegun | hcalled
      · exact (ih (.inl hunbegun)).imp_right .inr
      · exact .inr (.inl hcalled)
    · exact (ih (.inr hlater)).imp_right .inr

end Ledger

section Owed

variable (setup : Setup) (bound : Int) (actions : List Action)

/-- The runs that have not begun are those that were dispatched and not called. -/
theorem unbegun_eq_uncalled :
    (play setup (new bound) actions).1.ledger.unbegun =
      ↑(uncalled (play setup (new bound) actions).2) := by
  have hsound := play_sound setup bound actions
  have haccounts := play_accounts setup bound actions
  have hmoves := (play_follows setup actions (new_inOrder bound)).moves
  have hnodup := haccounts.nodup_dispatches.filter
    fun run => run ∉ calls (play setup (new bound) actions).2
  refine (Multiset.Nodup.ext hsound.nodup_unbegun (Multiset.coe_nodup.mpr hnodup)).mpr
    fun run => ?_
  rw [Multiset.mem_coe, List.mem_filter, decide_eq_true_eq]
  constructor
  · intro hrun
    have hregister := hsound.mem_register (.inl hrun)
    exact ⟨((haccounts.register run).mp hregister).1, haccounts.unbegun run hrun⟩
  · rintro ⟨hdispatched, hcalled⟩
    exact (hmoves.unbegun_or_called (.inr hdispatched)).resolve_right hcalled

theorem play_nodup_dirty : (play setup (new bound) actions).1.dirty.Nodup :=
  (play_follows setup actions (new_inOrder bound)).moves.nodup_dirty List.nodup_nil

theorem play_nodup_uncalled :
    ((uncalled (play setup (new bound) actions).2).map Run.document).Nodup := by
  have hsound := play_sound setup bound actions
  have haccounts := play_accounts setup bound actions
  refine hsound.nodup_documents (haccounts.nodup_dispatches.filter _) fun run hrun => ?_
  have hunbegun := unbegun_eq_uncalled setup bound actions
  refine hsound.mem_register (.inl ?_)
  rw [hunbegun]
  exact Multiset.mem_coe.mpr hrun

/-- A compilation is owed for each run that was not called, and for each dirty
document. -/
theorem owed_eq_count (document : Location) :
    (play setup (new bound) actions).1.ledger.owed document =
      ((uncalled (play setup (new bound) actions).2).map Run.document ++
        (play setup (new bound) actions).1.dirty).count document := by
  have hdirty := play_nodup_dirty setup bound actions
  rw [Ledger.owed, unbegun_eq_uncalled, Multiset.map_coe, Multiset.coe_count, List.count_append,
    hdirty.count, lawful_beq_subsingleton instBEqOfDecidableEq List.instBEq]
  rfl

end Owed

/-- Stopping does not show on the books. -/
theorem stop_ledger (w : Watcher) : w.stop.1.ledger = w.ledger := by
  unfold stop
  split <;> rfl

/-- However a watcher came to be stopped, and whatever happens then, it stays
stopped.  Events change nothing, starting it is refused, stopping it again changes
nothing, and an observer that was started is stopped once.  When no run is
registered any more, the compilations that began after the stop are one for each
document with a run that had not begun, and one for each document that was
dirty. -/
theorem stop_leaves_accepted_work (setup : Setup) (bound : Int) (before after : List Action) :
    let w := (play setup (new bound) before).1
    let trace := (play setup (new bound) before).2
    let later := (play setup w.stop.1 after).1
    let rest := (play setup w.stop.1 after).2
    later.phase = .stopped ∧
      (∀ tree kind path, later.handleEvent setup tree kind path = .ok ((later, []), none)) ∧
      (∀ tree refusal path, later.start setup tree refusal path =
        ((later, []), .error (.reported (.watcherState "stopped" "start")))) ∧
      later.stop = (later, []) ∧
      (.start ∈ observerCalls trace →
        (observerCalls (trace ++ w.stop.2 ++ rest)).count .stop = 1) ∧
      ((uncalled trace).map Run.document).Nodup ∧ w.dirty.Nodup ∧
      (later.inFlight = [] → ((calls rest).map Run.document).Perm
        ((uncalled trace).map Run.document ++ w.dirty)) := by
  intro w trace later rest
  have hinternal : Internal w.stop.1 (later, rest) :=
    play_internal_of_stopped after (stop_phase w)
  have hphase : later.phase = .stopped := hinternal.phase.trans (stop_phase w)
  refine ⟨hphase, handleEvent_of_stopped hphase, start_of_stopped hphase, stop_of_stopped hphase,
    fun hstarted => ?_, play_nodup_uncalled setup bound before, play_nodup_dirty setup bound before,
    fun hdone => ?_⟩
  · have hlives : w.stop.1.Lives (trace ++ w.stop.2) :=
      stop_lives (play_lives setup before (new_lives bound))
    rw [observerCalls_append, hinternal.observer, List.append_nil]
    rw [Lives, stop_phase] at hlives
    refine hlives.of_stopped.resolve_left fun hnone => ?_
    rw [observerCalls_append, List.append_eq_nil_iff] at hnone
    rw [hnone.1] at hstarted
    cases hstarted
  · have horder : w.InOrder :=
      (play_follows setup before (new_inOrder bound)).inOrder (new_inOrder bound)
    have hstop : w.stop.1.InOrder :=
      ((follows_additive setup).stop w horder.woken).inOrder horder
    have hfollows : Follows w.stop.1 (later, rest) := play_follows setup after hstop
    have hlater : later.ledger.Sound := (hfollows.inOrder hstop).sound
    refine List.perm_iff_count.mpr fun document => ?_
    have hgone : ¬later.ledger.InFlight document := by
      simp [Ledger.InFlight, ledger, hdone]
    have hbalance := hfollows.moves.balance document
    rw [stop_ledger, cost_eq_zero hinternal.accepted, hlater.owed_eq_zero hgone, Nat.add_zero,
      Nat.add_zero] at hbalance
    exact hbalance.symm.trans (owed_eq_count setup bound before document)

/-! ## Stopping with work left -/

def waitingDocument : Location := ["w", "b.gpt"]

/-- One document is compiled and changed meanwhile, another one waits for the only
slot. -/
def busy : List Action :=
  [.start sampleTree .never (Path.ofText "/w"), .event sampleTree added "a.gpt",
    .event sampleTree added "b.gpt", .job sampleTree 0, .job sampleTree 0,
    .event sampleTree changed "a.gpt"]

/-- A change, a start and a stop come too late.  Then everything is let end. -/
def windDown : List Action :=
  [.event sampleTree changed "b.gpt", .start sampleTree .never (Path.ofText "/w"), .stop,
    .finish sampleDocument (.raised .embeddedNul)] ++ List.replicate 4 (.job sampleTree 0) ++
  [.finish waitingDocument (.returned (.succeeded "/w/b.js" "javascript"))] ++
    List.replicate 4 (.job sampleTree 0) ++
  [.finish sampleDocument (.returned (.succeeded "/w/a.js" "javascript"))] ++
    List.replicate 2 (.job sampleTree 0)

/-- The waiting run and the follow-up are compiled, each once, and nothing else. -/
theorem waiting_run_and_follow_up_are_finished :
    .start ∈ observerCalls (play sampleSetup (new 1) busy).2 ∧
      (play sampleSetup (play sampleSetup (new 1) busy).1.stop.1 windDown).1.inFlight = [] ∧
      (observerCalls ((play sampleSetup (new 1) busy).2 ++
        (play sampleSetup (new 1) busy).1.stop.2 ++
        (play sampleSetup (play sampleSetup (new 1) busy).1.stop.1 windDown).2)).count .stop = 1 ∧
      ((calls (play sampleSetup (play sampleSetup (new 1) busy).1.stop.1 windDown).2).map
        Run.document).Perm ([waitingDocument] ++ [sampleDocument]) := by
  have hstarted : .start ∈ observerCalls (play sampleSetup (new 1) busy).2 := by decide +kernel
  have hdone : (play sampleSetup (play sampleSetup (new 1) busy).1.stop.1 windDown).1.inFlight =
      [] := by decide +kernel
  have hwaiting : (uncalled (play sampleSetup (new 1) busy).2).map Run.document =
      [waitingDocument] := by decide +kernel
  have hdirty : (play sampleSetup (new 1) busy).1.dirty = [sampleDocument] := by decide +kernel
  obtain ⟨-, -, -, -, honce, -, -, hcalls⟩ :=
    stop_leaves_accepted_work sampleSetup 1 busy windDown
  rw [hwaiting, hdirty] at hcalls
  exact ⟨hstarted, hdone, honce hstarted, hcalls hdone⟩

end ProseCompiler.Watcher
