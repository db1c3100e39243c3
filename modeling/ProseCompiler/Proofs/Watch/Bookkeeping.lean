import ProseCompiler.Proofs.Watch.Ledger

/-!
# A watcher keeps its books

`Watcher.ledger` reads the ledger off a watcher: a run stands where its job, its
place among the waiters or its open compilation puts it.  Every action on a
watcher whose books are in order is a sequence of moves of that ledger
(`act_follows`), and leaves the books in order.  `play_follows` says so of a
whole history.

There are three groups of results.

* Registering and unregistering runs: `dispatch`, `close` and the events that
  lead to them.
* Slots: who waits, and who was woken, does not show in the ledger.  A woken run
  has exactly one job that takes it up, which is what `Woken` says.
* Jobs, actions and histories.
-/

namespace ProseCompiler.Watcher

/-! ## Reading the ledger -/

/-- The run that a job begins. -/
def Job.begins? : Job → Option Run
  | .begin run => some run
  | _ => none

/-- The run that a job takes up again after it waited. -/
def Job.wakes? : Job → Option Run
  | .wake run => some run
  | _ => none

/-- The run that a job takes up again after its compilation. -/
def Job.resumes? : Job → Option Run
  | .resume run _ => some run
  | _ => none

/-- The run that a job closes. -/
def Job.closes? : Job → Option Run
  | .close run => some run
  | _ => none

/-- The ledger of a watcher.  A compilation counts as open until its run goes
on. -/
def ledger (w : Watcher) : Ledger where
  nextId := w.nextId
  register := w.inFlight
  dirty := w.dirty
  unbegun := ↑(w.ready.filterMap Job.begins? ++ w.waiting.map Waiter.run)
  opened := ↑(w.ready.filterMap Job.resumes? ++ w.running)
  ended := ↑(w.ready.filterMap Job.closes?)

/-- The jobs that take up waiting runs are those of the runs that were woken. -/
def Woken (w : Watcher) : Prop :=
  (w.ready.filterMap Job.wakes?).Perm ((w.waiting.filter Waiter.isWoken).map Waiter.run)

/-- A watcher whose books are in order. -/
structure InOrder (w : Watcher) : Prop where
  sound : w.ledger.Sound
  woken : w.Woken

/-- What happened to a watcher is a sequence of moves of its ledger. -/
structure Follows (w : Watcher) (effect : Effect) : Prop where
  moves : w.ledger.Moves effect.2 effect.1.ledger
  woken : effect.1.Woken

namespace Follows

variable {w w' w'' : Watcher} {reports more : List Report}

theorem inOrder (h : Follows w (w', reports)) (hw : w.InOrder) : w'.InOrder :=
  ⟨h.moves.sound hw.sound, h.woken⟩

theorem trans (h : Follows w (w', reports)) (h' : Follows w' (w'', more)) :
    Follows w (w'', reports ++ more) :=
  ⟨h.moves.trans h'.moves, h'.woken⟩

/-- Reports that tell nothing, and a watcher with the same books. -/
theorem asides (hw : w.Woken) (hready : w'.ready = w.ready) (hwaiting : w'.waiting = w.waiting)
    (hledger : w'.ledger = w.ledger) (hreports : ∀ report ∈ reports, report.IsAside) :
    Follows w (w', reports) := by
  refine ⟨?_, ?_⟩
  · rw [hledger]
    exact .asides hreports
  · rw [Woken, hready, hwaiting]
    exact hw

end Follows

theorem isInFlight_iff {w : Watcher} {document : Location} :
    w.isInFlight document = true ↔ w.ledger.InFlight document := by
  simp only [isInFlight, Ledger.InFlight, ledger, List.any_eq_true, beq_iff_eq, List.mem_map]

theorem isInFlight_eq_false_iff {w : Watcher} {document : Location} :
    w.isInFlight document = false ↔ ¬w.ledger.InFlight document := by
  rw [← isInFlight_iff, Bool.not_eq_true]

/-- A registered run is the one that the register has for its document. -/
theorem registered?_eq_some {w : Watcher} {run : Run} (hw : w.ledger.Sound)
    (hrun : run ∈ w.inFlight) : w.registered? run.document = some run := by
  cases h : w.registered? run.document with
  | none =>
    have hnone := List.find?_eq_none.mp h run hrun
    exact absurd (beq_self_eq_true run.document) hnone
  | some other =>
    have hmem : other ∈ w.inFlight := List.mem_of_find?_eq_some h
    have hdocument : other.document = run.document := by simpa using List.find?_some h
    rw [hw.eq_of_document hmem hrun hdocument]

/-! ## Dispatch and events -/

/-- A free document gets a run that has not begun. -/
theorem dispatch_of_free {w : Watcher} {document : Location}
    (hfree : w.isInFlight document = false) :
    (w.dispatch document).1.2 = [.dispatched ⟨w.nextId, document⟩] ∧
      (w.dispatch document).1.1.ledger = w.ledger.enroll document := by
  simp only [dispatch, hfree, Bool.false_eq_true, if_false, true_and]
  ext1
  · rfl
  · rfl
  · rfl
  · simp only [ledger, Ledger.enroll, List.filterMap_append, List.filterMap_cons,
      List.filterMap_nil, Job.begins?, List.append_assoc, List.singleton_append]
    exact Multiset.coe_eq_coe.mpr List.perm_middle
  · simp [ledger, Ledger.enroll, Job.resumes?, List.filterMap_cons]
  · simp [ledger, Ledger.enroll, Job.closes?, List.filterMap_cons]

theorem dispatch_woken {w : Watcher} (document : Location) (hw : w.Woken) :
    (w.dispatch document).1.1.Woken := by
  unfold dispatch
  split
  · exact hw
  · simpa [Woken, Job.wakes?, List.filterMap_cons] using hw

/-- An accepted event is one move, and a note that its document has to wait. -/
theorem dispatch_follows {w : Watcher} (document : Location) (hw : w.Woken) :
    Follows w ((w.dispatch document).1.1,
      .accepted document (w.standing document) :: (w.dispatch document).1.2) := by
  refine ⟨?_, dispatch_woken document hw⟩
  by_cases hflight : w.isInFlight document = true
  · have hregistered := isInFlight_iff.mp hflight
    have hnote : (coalesced document).IsAside := entry_isAside ..
    by_cases hdirty : w.dirty.contains document = true
    · have hmem : document ∈ w.dirty := List.contains_iff_mem.mp hdirty
      simp only [standing, dispatch, hflight, hdirty, if_true]
      exact (Ledger.Move.merge hregistered hmem).moves.trans (Ledger.Move.aside hnote).moves
    · have hmem : document ∉ w.dirty := fun h => hdirty (List.contains_iff_mem.mpr h)
      simp only [standing, dispatch, hflight, hdirty, if_true, Bool.false_eq_true, if_false]
      exact (Ledger.Move.mark hregistered hmem).moves.trans (Ledger.Move.aside hnote).moves
  · have hfree : w.isInFlight document = false := by simpa using hflight
    obtain ⟨hreports, hledger⟩ := dispatch_of_free hfree
    rw [hreports, hledger]
    simp only [standing, hfree, Bool.false_eq_true, if_false]
    exact (Ledger.Move.dispatch (isInFlight_eq_false_iff.mp hfree)).moves

theorem handleEvent_follows {setup : Setup} {tree : Tree} {w : Watcher} {kind path : Text}
    {effect : Effect} {run : Option Run} (hw : w.Woken)
    (h : w.handleEvent setup tree kind path = .ok (effect, run)) : Follows w effect := by
  unfold handleEvent at h
  split at h
  · split at h
    · cases h
    · rename_i document _
      have hdispatch := dispatch_follows document hw
      rcases hresult : w.dispatch document with ⟨⟨w', reports⟩, run'⟩
      rw [hresult] at h hdispatch
      cases h
      refine ⟨?_, hdispatch.woken⟩
      exact (Ledger.Move.aside (entry_isAside _ _ _ _)).moves.trans hdispatch.moves
  · cases h
    exact ⟨.refl, hw⟩

/-! ## Slots -/

/-- Waking a waiter changes no run of the waiters, and marks one more as
woken. -/
theorem wokenFirst_eq_some {waiters woken : List Waiter} {run : Run}
    (h : wokenFirst waiters = some (woken, run)) :
    woken.map Waiter.run = waiters.map Waiter.run ∧
      ((woken.filter Waiter.isWoken).map Waiter.run).Perm
        (run :: (waiters.filter Waiter.isWoken).map Waiter.run) := by
  induction waiters generalizing woken with
  | nil => cases h
  | cons waiter rest ih =>
    unfold wokenFirst at h
    by_cases hwaiter : waiter.isWoken = true
    · rw [if_pos hwaiter] at h
      obtain ⟨⟨more, other⟩, hrest, heq⟩ := Option.map_eq_some_iff.mp h
      cases heq
      obtain ⟨hruns, hwoken⟩ := ih hrest
      refine ⟨by simp [hruns], ?_⟩
      simp only [List.filter_cons, hwaiter, if_true, List.map_cons]
      exact (hwoken.cons waiter.run).trans (.swap ..)
    · rw [if_neg hwaiter] at h
      cases h
      refine ⟨rfl, ?_⟩
      simp [hwaiter]

theorem wakeNext_ledger (w : Watcher) : w.wakeNext.ledger = w.ledger := by
  unfold wakeNext
  split
  · rfl
  · rename_i waiting run h
    obtain ⟨hruns, -⟩ := wokenFirst_eq_some h
    simp [ledger, hruns, List.filterMap_cons, Job.begins?, Job.resumes?, Job.closes?]

theorem wakeNext_woken {w : Watcher} (hw : w.Woken) : w.wakeNext.Woken := by
  unfold wakeNext
  split
  · exact hw
  · rename_i waiting run h
    obtain ⟨-, hwoken⟩ := wokenFirst_eq_some h
    simp only [Woken, List.filterMap_append, List.filterMap_cons, List.filterMap_nil, Job.wakes?]
    exact (List.perm_append_singleton _ _).trans ((hw.cons run).trans hwoken.symm)

theorem releaseSlot_ledger (w : Watcher) : w.releaseSlot.ledger = w.ledger := by
  unfold releaseSlot
  split
  · rfl
  · exact wakeNext_ledger _

theorem releaseSlot_woken {w : Watcher} (hw : w.Woken) : w.releaseSlot.Woken := by
  unfold releaseSlot
  split
  · exact hw
  · exact wakeNext_woken hw

theorem offerSlot_ledger (w : Watcher) : w.offerSlot.ledger = w.ledger := by
  unfold offerSlot
  split
  · rfl
  · rfl
  · exact wakeNext_ledger w

theorem offerSlot_woken {w : Watcher} (hw : w.Woken) : w.offerSlot.Woken := by
  unfold offerSlot
  split
  · exact hw
  · exact hw
  · exact wakeNext_woken hw

/-! ## Jobs -/

/-- A watcher with one more job ready. -/
def withJob (w : Watcher) (job : Job) : Watcher := { w with ready := job :: w.ready }

/-- The books do not show the order of the jobs. -/
theorem ledger_withReady {w : Watcher} {ready : List Job} (h : ready.Perm w.ready) :
    ({ w with ready } : Watcher).ledger = w.ledger := by
  ext1
  · rfl
  · rfl
  · rfl
  · exact Multiset.coe_eq_coe.mpr ((h.filterMap _).append_right _)
  · exact Multiset.coe_eq_coe.mpr ((h.filterMap _).append_right _)
  · exact Multiset.coe_eq_coe.mpr (h.filterMap _)

theorem InOrder.withReady {w : Watcher} {ready : List Job} (hw : w.InOrder)
    (h : ready.Perm w.ready) : ({ w with ready } : Watcher).InOrder where
  sound := by
    rw [ledger_withReady h]
    exact hw.sound
  woken := (h.filterMap _).trans hw.woken

/-- Opening a compilation is the same on the books and in the watcher. -/
theorem call_ledger (w : Watcher) (run : Run) :
    (w.call run).1.ledger = { w.ledger with opened := run ::ₘ w.ledger.opened } := by
  ext1
  case opened =>
    simp only [call, ledger, ← List.append_assoc]
    exact Multiset.coe_eq_coe.mpr (List.perm_append_singleton run _)
  all_goals rfl

/-- A run whose compilation opens has left the runs that have not begun. -/
theorem call_follows {w w' : Watcher} {run : Run} (hrun : run ∈ w.ledger.unbegun)
    (hledger : w'.ledger = { w.ledger with unbegun := w.ledger.unbegun.erase run })
    (hwoken : w'.Woken) : Follows w (w'.call run) := by
  refine ⟨?_, hwoken⟩
  have hmove : (w'.call run).1.ledger = w.ledger.begin run := by
    rw [call_ledger, hledger]
    rfl
  rw [hmove]
  exact (Ledger.Move.call hrun).moves

theorem begin_follows {w : Watcher} {run : Run} (hw : (w.withJob (.begin run)).InOrder) :
    Follows (w.withJob (.begin run)) (w.begin run) := by
  have hwoken : w.Woken := hw.woken
  have hunbegun : (w.withJob (.begin run)).ledger.unbegun = run ::ₘ w.ledger.unbegun := rfl
  have hrun : run ∈ (w.withJob (.begin run)).ledger.unbegun :=
    hunbegun ▸ Multiset.mem_cons_self run _
  have hledger : w.ledger =
      { (w.withJob (.begin run)).ledger with
        unbegun := (w.withJob (.begin run)).ledger.unbegun.erase run } := by
    rw [hunbegun, Multiset.erase_cons_head]
    rfl
  unfold begin
  split
  · exact call_follows hrun hledger hwoken
  · split
    · refine ⟨?_, ?_⟩
      · have hsame : ({ w with waiting := w.waiting ++ [⟨run, false⟩] } : Watcher).ledger =
            (w.withJob (.begin run)).ledger := by
          ext1
          case unbegun =>
            simp only [ledger, List.map_append, List.map_cons, List.map_nil,
              ← List.append_assoc]
            exact Multiset.coe_eq_coe.mpr (List.perm_append_singleton run _)
          all_goals rfl
        rw [hsame]
        exact .refl
      · simpa [Woken] using hwoken
    · exact call_follows hrun hledger hwoken

/-- Among waiters of different runs, one run is the run of one of them. -/
theorem waiters_perm_cons {waiters : List Waiter} {run : Run}
    (hnodup : (waiters.map Waiter.run).Nodup) (hrun : run ∈ waiters.map Waiter.run) :
    (waiters.map Waiter.run).Perm
      (run :: (waiters.filter fun waiter => waiter.run != run).map Waiter.run) := by
  have hfilter : (waiters.filter fun waiter => waiter.run != run).map Waiter.run =
      (waiters.map Waiter.run).erase run := by
    rw [hnodup.erase_eq_filter, List.filter_map]
    rfl
  rw [hfilter]
  exact List.perm_cons_erase hrun

/-- A woken run waits for its slot. -/
theorem InOrder.mem_woken {w : Watcher} {run : Run} (hw : (w.withJob (.wake run)).InOrder) :
    run ∈ (w.waiting.filter Waiter.isWoken).map Waiter.run := by
  have hwoken : (run :: w.ready.filterMap Job.wakes?).Perm
      ((w.waiting.filter Waiter.isWoken).map Waiter.run) := hw.woken
  exact hwoken.subset List.mem_cons_self

/-- No run waits twice. -/
theorem InOrder.nodup_waiting {w : Watcher} (hw : w.InOrder) :
    (w.waiting.map Waiter.run).Nodup :=
  (Multiset.coe_nodup.mp hw.sound.nodup_unbegun).sublist (List.sublist_append_right _ _)

/-- The waiter of a woken run goes with the job that takes the run up. -/
theorem InOrder.woken_without {w : Watcher} {run : Run}
    (hw : (w.withJob (.wake run)).InOrder) :
    ({ w with waiting := w.waiting.filter fun waiter => waiter.run != run } : Watcher).Woken := by
  have hwoken : (run :: w.ready.filterMap Job.wakes?).Perm
      ((w.waiting.filter Waiter.isWoken).map Waiter.run) := hw.woken
  have hnodup : (w.waiting.map Waiter.run).Nodup := hw.nodup_waiting
  have hrest := waiters_perm_cons (hnodup.sublist (List.filter_sublist.map _)) hw.mem_woken
  rw [List.filter_filter, List.filter_congr fun _ _ => Bool.and_comm _ _,
    ← List.filter_filter] at hrest
  exact (hwoken.trans hrest).cons_inv

theorem wake_follows {w : Watcher} {run : Run} (hw : (w.withJob (.wake run)).InOrder) :
    Follows (w.withJob (.wake run)) (w.wake run) := by
  have hnodup : (w.waiting.map Waiter.run).Nodup := hw.nodup_waiting
  have hmem : run ∈ w.waiting.map Waiter.run := (List.filter_sublist.map _).subset hw.mem_woken
  let w' : Watcher := { w with waiting := w.waiting.filter fun waiter => waiter.run != run }
  have hunbegun : (w.withJob (.wake run)).ledger.unbegun = run ::ₘ w'.ledger.unbegun := by
    refine Multiset.coe_eq_coe.mpr ?_
    exact ((waiters_perm_cons hnodup hmem).append_left _).trans List.perm_middle
  have hrun : run ∈ (w.withJob (.wake run)).ledger.unbegun :=
    hunbegun ▸ Multiset.mem_cons_self run _
  have hledger : w'.ledger =
      { (w.withJob (.wake run)).ledger with
        unbegun := (w.withJob (.wake run)).ledger.unbegun.erase run } := by
    rw [hunbegun, Multiset.erase_cons_head]
    rfl
  exact call_follows hrun ((offerSlot_ledger w').trans hledger) (offerSlot_woken hw.woken_without)

/-- The end of a compilation is shown after everything else about it. -/
theorem closing_eq (setup : Setup) (run : Run) (ending : Ending) :
    ∃ notes outcome, closing setup run ending = notes ++ [.ended run outcome] ∧
      ∀ note ∈ notes, Report.IsAside note := by
  cases ending with
  | raised fault =>
    refine ⟨[failed run.document fault], none, rfl, ?_⟩
    simp [failed, entry_isAside]
  | returned outcome =>
    refine ⟨_, some outcome, rfl, ?_⟩
    cases setup.display with
    | none => simp
    | some display =>
      intro note hnote
      simp only [List.singleton_append, List.mem_cons, Option.mem_toList,
        Option.map_eq_some_iff] at hnote
      rcases hnote with rfl | ⟨fault, -, rfl⟩
      · exact trivial
      · exact entry_isAside ..

theorem resume_follows {setup : Setup} {w : Watcher} {run : Run} {ending : Ending}
    (hw : (w.withJob (.resume run ending)).InOrder) :
    Follows (w.withJob (.resume run ending)) (w.resume setup run ending) := by
  have hwoken : w.Woken := hw.woken
  have hopened : (w.withJob (.resume run ending)).ledger.opened = run ::ₘ w.ledger.opened := rfl
  have hrun : run ∈ (w.withJob (.resume run ending)).ledger.opened :=
    hopened ▸ Multiset.mem_cons_self run _
  have hready : ∀ w' : Watcher, ({ w' with ready := w'.ready ++ [.close run] } : Watcher).ledger =
      { w'.ledger with ended := run ::ₘ w'.ledger.ended } := by
    intro w'
    ext1
    case ended =>
      simp only [ledger, List.filterMap_append, List.filterMap_cons, List.filterMap_nil,
        Job.closes?]
      exact Multiset.coe_eq_coe.mpr (List.perm_append_singleton run _)
    all_goals simp [ledger, List.filterMap_cons, Job.begins?, Job.resumes?]
  have hmove : (w.resume setup run ending).1.ledger =
      (w.withJob (.resume run ending)).ledger.finish run := by
    rw [resume, hready, releaseSlot_ledger, Ledger.finish, hopened, Multiset.erase_cons_head]
    rfl
  refine ⟨?_, ?_⟩
  · obtain ⟨notes, outcome, hnotes, haside⟩ := closing_eq setup run ending
    rw [hmove, resume, hnotes]
    exact (Ledger.Moves.asides haside).trans (Ledger.Move.finish hrun).moves
  · simpa [Woken, resume, Job.wakes?, List.filterMap_cons] using releaseSlot_woken hwoken

theorem close_follows {w : Watcher} {run : Run} (hw : (w.withJob (.close run)).InOrder) :
    Follows (w.withJob (.close run)) (w.close run) := by
  have hwoken : w.Woken := hw.woken
  have hended : (w.withJob (.close run)).ledger.ended = run ::ₘ w.ledger.ended := rfl
  have hrun : run ∈ (w.withJob (.close run)).ledger.ended :=
    hended ▸ Multiset.mem_cons_self run _
  have hregistered :=
    registered?_eq_some hw.sound (hw.sound.mem_register (.inr (.inr hrun)))
  change w.registered? run.document = some run at hregistered
  let w' : Watcher :=
    { w with inFlight := w.inFlight.filter fun other => other.document != run.document }
  have hunregister : w.unregister run = w' := by rw [unregister, if_pos hregistered]
  let w'' : Watcher := { w' with dirty := w'.dirty.filter (· != run.document) }
  have hretire : w''.ledger = (w.withJob (.close run)).ledger.retire run := by
    rw [Ledger.retire, hended, Multiset.erase_cons_head]
    rfl
  simp only [close, hunregister]
  split
  · rename_i hdirty
    have hmem : run.document ∈ w.dirty := List.contains_iff_mem.mp hdirty
    have hfree : w''.isInFlight run.document = false := by
      rw [isInFlight_eq_false_iff, hretire, Ledger.Sound.inFlight_retire]
      exact fun h => h.2 rfl
    obtain ⟨hreports, hledger⟩ := dispatch_of_free hfree
    refine ⟨?_, dispatch_woken run.document hwoken⟩
    show Ledger.Moves _ (_ :: (w''.dispatch run.document).1.2)
      (w''.dispatch run.document).1.1.ledger
    rw [hreports, hledger, hretire]
    exact (Ledger.Move.renew hrun hmem).moves
  · rename_i hclean
    have hmem : run.document ∉ w.dirty := fun h => hclean (List.contains_iff_mem.mpr h)
    have hsame : w'.ledger = w''.ledger := by
      have hdirty : w'.dirty.filter (· != run.document) = w'.dirty := by
        rw [List.filter_eq_self]
        intro document hdocument
        exact bne_iff_ne.mpr fun heq => hmem (heq ▸ hdocument)
      simp only [ledger, w'', hdirty]
    refine ⟨?_, hwoken⟩
    rw [hsame, hretire]
    exact (Ledger.Move.close hrun hmem).moves

/-! ## Actions and histories -/

/-- Effects that follow the ledger, started from a watcher that knows whom it
woke. -/
theorem follows_additive (setup : Setup) :
    Additive setup fun w effect => w.Woken → Follows w effect where
  notes := fun hreports hw =>
    .asides hw rfl rfl rfl fun report hreport => (hreports report hreport).isAside
  trans := fun hfirst hsecond hw => (hfirst hw).trans (hsecond (hfirst hw).woken)
  event := fun h hw => handleEvent_follows hw h

theorem perform_follows {setup : Setup} {tree : Tree} {w : Watcher} {job : Job}
    (hw : (w.withJob job).InOrder) :
    Follows (w.withJob job) (perform setup tree w job) := by
  cases job with
  | begin run => exact begin_follows hw
  | wake run => exact wake_follows hw
  | resume run ending => exact resume_follows hw
  | close run => exact close_follows hw
  | event kind path =>
    -- The job of an event stands for no run, so the books are the same without it.
    have hwoken : w.Woken := hw.woken
    have hfollows : Follows w (perform setup tree w (.event kind path)) :=
      (follows_additive setup).perform_event tree w kind path hwoken
    exact ⟨hfollows.moves, hfollows.woken⟩

/-- The end of a compilation makes its run ready to go on. -/
theorem finish_ledger {w w' : Watcher} {document : Location} {ending : Ending}
    (hw : w.InOrder) (h : w.finish document ending = some w') : w'.ledger = w.ledger := by
  obtain ⟨run, hfind, rfl⟩ := Option.map_eq_some_iff.mp h
  have hrun : run ∈ w.running := List.mem_of_find?_eq_some hfind
  have hnodup : w.running.Nodup :=
    (Multiset.coe_nodup.mp hw.sound.nodup_opened).sublist (List.sublist_append_right _ _)
  ext1
  case opened =>
    simp only [ledger, List.filterMap_append, List.filterMap_cons, List.filterMap_nil,
      Job.resumes?, List.append_assoc, List.singleton_append, ← hnodup.erase_eq_filter]
    exact Multiset.coe_eq_coe.mpr ((List.perm_cons_erase hrun).symm.append_left _)
  all_goals simp [ledger, List.filterMap_cons, Job.begins?, Job.closes?]

theorem enqueue_follows {w : Watcher} {kind path : Text} (hw : w.Woken) :
    Follows w (w.enqueue kind path, []) := by
  have hledger : (w.enqueue kind path).ledger = w.ledger := by
    simp [ledger, enqueue, List.filterMap_cons, Job.begins?, Job.resumes?, Job.closes?]
  refine ⟨?_, ?_⟩
  · rw [hledger]
    exact .refl
  · simpa [Woken, enqueue, List.filterMap_cons, Job.wakes?] using hw

theorem finish_follows {w : Watcher} {document : Location} {ending : Ending} (hw : w.InOrder) :
    Follows w ((w.finish document ending).getD w, []) := by
  cases h : w.finish document ending with
  | none => exact ⟨.refl, hw.woken⟩
  | some w' =>
    have hledger := finish_ledger hw h
    obtain ⟨run, -, rfl⟩ := Option.map_eq_some_iff.mp h
    refine ⟨?_, ?_⟩
    · rw [Option.getD_some, hledger]
      exact .refl
    · simpa [Woken, List.filterMap_cons, Job.wakes?] using hw.woken

/-- One action on a watcher whose books are in order is a sequence of moves. -/
theorem act_follows (setup : Setup) {w : Watcher} (action : Action) (hw : w.InOrder) :
    Follows w (w.act setup action) := by
  cases action with
  | start tree refusal path => exact (follows_additive setup).start tree refusal path w hw.woken
  | event tree kind path => exact (follows_additive setup).perform_event tree w kind path hw.woken
  | handOver kind path => exact enqueue_follows hw.woken
  | stop => exact (follows_additive setup).stop w hw.woken
  | finish document ending => exact finish_follows hw
  | job tree index =>
    simp only [act]
    split
    · exact ⟨.refl, hw.woken⟩
    · rename_i job h
      obtain ⟨hindex, rfl⟩ := List.getElem?_eq_some_iff.mp h
      let w' : Watcher := { w with ready := w.ready.eraseIdx index }
      -- Any ready job may as well be the first one.
      have hperm : (w'.withJob w.ready[index]).ready.Perm w.ready :=
        List.getElem_cons_eraseIdx_perm hindex
      have hjob : (w'.withJob w.ready[index]).InOrder := hw.withReady hperm
      have hfollows : Follows (w'.withJob w.ready[index]) (perform setup tree w' w.ready[index]) :=
        perform_follows hjob
      refine ⟨?_, hfollows.woken⟩
      rw [← ledger_withReady hperm]
      exact hfollows.moves

/-- A history that starts in order is a sequence of moves. -/
theorem play_follows (setup : Setup) {w : Watcher} (actions : List Action) (hw : w.InOrder) :
    Follows w (play setup w actions) := by
  induction actions generalizing w with
  | nil => exact ⟨.refl, hw.woken⟩
  | cons action rest ih =>
    have hfirst : Follows w (w.act setup action) := act_follows setup action hw
    exact hfirst.trans (ih (hfirst.inOrder hw))

/-! ## New watchers -/

/-- The books of a new watcher are empty. -/
theorem new_inOrder (bound : Int) : (new bound).InOrder where
  sound := ⟨rfl, List.nodup_nil, fun _ h => absurd h List.not_mem_nil⟩
  woken := .refl _

theorem new_accounts (bound : Int) : Ledger.Accounts [] (new bound).ledger where
  nodup_dispatches := List.nodup_nil
  nodup_calls := List.nodup_nil
  numbers := fun _ h => absurd h List.not_mem_nil
  register := by simp [ledger, new, dispatches]
  unbegun := by simp [ledger, new]
  opened := by simp [ledger, new, calls]
  calls_subset := fun _ h => absurd h List.not_mem_nil
  endings_subset := fun _ h => absurd h List.not_mem_nil
  closings_subset := fun _ h => absurd h List.not_mem_nil

end ProseCompiler.Watcher
