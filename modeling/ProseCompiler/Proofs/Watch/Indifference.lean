import ProseCompiler.Proofs.Watch.Delivery
import ProseCompiler.Proofs.Watch.Intake
import ProseCompiler.Proofs.Watch.Veil

/-!
# Endings do not disturb the schedule

Two histories may differ in how the compilations end and in what is done with their
outcomes.  If they agree in everything else, the same compilations begin in the same
order, and phase, register and follow-ups are the same after every action.  This is
read off the veil: `playEach_congr`.

Who is shown the outcomes is shown each outcome that a call returned, and nothing
else.  An outcome is due from the moment at which its call returns, and is delivered
when its run goes on; `Settles` says of an effect that what was due and what came due
is what it delivers and what is due then.  `endings_leave_schedule_alone` puts both
halves together.
-/

namespace ProseCompiler.Watcher

variable {setup : Setup} {w w' w'' : Watcher} {reports more trace : List Report}

/-! ## Outcomes in a trace -/

/-- The run and its outcome, if a report tells that a compilation returned one. -/
def Report.delivery? : Report → Option (Run × Outcome)
  | .ended run (some outcome) => some (run, outcome)
  | _ => none

/-- The document and the outcome that a report tells were shown. -/
def Report.shown? : Report → Option (Location × Outcome)
  | .shown document outcome => some (document, outcome)
  | _ => none

/-- The outcomes with which runs went on, in this order. -/
def deliveries (trace : List Report) : List (Run × Outcome) := trace.filterMap Report.delivery?

/-- The outcomes that were shown, in this order. -/
def shownOutcomes (trace : List Report) : List (Location × Outcome) :=
  trace.filterMap Report.shown?

/-- What is shown of an outcome of a run. -/
def presented (delivery : Run × Outcome) : Location × Outcome := (delivery.1.document, delivery.2)

@[simp] theorem deliveries_append (first second : List Report) :
    deliveries (first ++ second) = deliveries first ++ deliveries second :=
  List.filterMap_append ..

@[simp] theorem shownOutcomes_append (first second : List Report) :
    shownOutcomes (first ++ second) = shownOutcomes first ++ shownOutcomes second :=
  List.filterMap_append ..

/-! ## Outcomes that are due -/

/-- The run and its outcome, if a job takes a run up again whose call returned one. -/
def Job.delivery? : Job → Option (Run × Outcome)
  | .resume run (.returned outcome) => some (run, outcome)
  | _ => none

/-- The outcomes that calls have returned and with which no run has gone on. -/
def undelivered (w : Watcher) : List (Run × Outcome) := w.ready.filterMap Job.delivery?

/-- The outcome that a call returns by an action, and the run that made the call. -/
def returned? (w : Watcher) : Action → Option (Run × Outcome)
  | .finish document (.returned outcome) =>
    (w.running.find? fun run => run.document == document).map fun run => (run, outcome)
  | _ => none

/-- The outcomes that calls return in a history, in this order. -/
def returns : Watcher → List Occasion → List (Run × Outcome)
  | _, [] => []
  | w, step :: rest =>
    (w.returned? step.action).toList ++ returns (w.act step.setup step.action).1 rest

/-! ## Steps without outcomes -/

/-- No outcome comes or goes. -/
structure Outcomeless (w : Watcher) (effect : Effect) : Prop where
  undelivered : effect.1.undelivered = w.undelivered
  deliveries : deliveries effect.2 = []
  shown : shownOutcomes effect.2 = []

namespace Outcomeless

theorem refl (w : Watcher) : Outcomeless w (w, []) := ⟨rfl, rfl, rfl⟩

theorem trans (hfirst : Outcomeless w (w', reports)) (hsecond : Outcomeless w' (w'', more)) :
    Outcomeless w (w'', reports ++ more) where
  undelivered := hsecond.undelivered.trans hfirst.undelivered
  deliveries := by rw [deliveries_append, hfirst.deliveries, hsecond.deliveries, List.append_nil]
  shown := by rw [shownOutcomes_append, hfirst.shown, hsecond.shown, List.append_nil]

theorem cons {report : Report} (h : Outcomeless w (w', reports))
    (hdelivery : report.delivery? = none) (hshown : report.shown? = none) :
    Outcomeless w (w', report :: reports) where
  undelivered := h.undelivered
  deliveries := by
    rw [Watcher.deliveries, List.filterMap_cons_none hdelivery]
    exact h.deliveries
  shown := by
    rw [shownOutcomes, List.filterMap_cons_none hshown]
    exact h.shown

end Outcomeless

theorem dispatch_outcomeless (w : Watcher) (document : Location) :
    Outcomeless w (w.dispatch document).1 := by
  unfold dispatch
  split
  · exact ⟨rfl, rfl, rfl⟩
  · refine ⟨?_, rfl, rfl⟩
    simp [undelivered, List.filterMap_cons, Job.delivery?]

theorem handleEvent_outcomeless {tree : Tree} {kind path : Text} {effect : Effect}
    {run : Option Run} (h : w.handleEvent setup tree kind path = .ok (effect, run)) :
    Outcomeless w effect := by
  unfold handleEvent at h
  split at h
  · split at h
    · cases h
    · next document _ =>
      have hdispatch := dispatch_outcomeless w document
      rcases hresult : w.dispatch document with ⟨⟨w', reports⟩, run'⟩
      rw [hresult] at h hdispatch
      cases h
      exact (hdispatch.cons rfl rfl).cons rfl rfl
  · cases h
    exact .refl w

/-- Starting and stopping, and every event, bring no outcome. -/
theorem outcomeless_additive (setup : Setup) : Additive setup Outcomeless where
  notes := by
    intro w phase root isObserving reports hnotes
    have hnone : ∀ report ∈ reports, report.delivery? = none ∧ report.shown? = none := by
      intro report hreport
      have hnote := hnotes report hreport
      cases report with
      | entry | observer => exact ⟨rfl, rfl⟩
      | accepted | dispatched | called | shown | ended | closed => exact hnote.elim
    refine ⟨rfl, ?_, ?_⟩
    · exact List.filterMap_eq_nil_iff.mpr fun report hreport => (hnone report hreport).1
    · exact List.filterMap_eq_nil_iff.mpr fun report hreport => (hnone report hreport).2
  trans := Outcomeless.trans
  event := handleEvent_outcomeless

theorem wakeNext_undelivered (w : Watcher) : w.wakeNext.undelivered = w.undelivered := by
  unfold wakeNext
  split
  · rfl
  · simp [undelivered, List.filterMap_cons, Job.delivery?]

theorem releaseSlot_undelivered (w : Watcher) : w.releaseSlot.undelivered = w.undelivered := by
  unfold releaseSlot
  split
  · rfl
  · exact wakeNext_undelivered _

theorem offerSlot_undelivered (w : Watcher) : w.offerSlot.undelivered = w.undelivered := by
  unfold offerSlot
  split
  · rfl
  · rfl
  · exact wakeNext_undelivered w

theorem begin_outcomeless (w : Watcher) (run : Run) : Outcomeless w (w.begin run) := by
  unfold begin
  split
  · exact ⟨rfl, rfl, rfl⟩
  · split <;> exact ⟨rfl, rfl, rfl⟩

theorem wake_outcomeless (w : Watcher) (run : Run) : Outcomeless w (w.wake run) := by
  let w' : Watcher := { w with waiting := w.waiting.filter fun waiter => waiter.run != run }
  have hoffer : w'.offerSlot.undelivered = w'.undelivered := offerSlot_undelivered w'
  exact ⟨hoffer, rfl, rfl⟩

theorem close_outcomeless (w : Watcher) (run : Run) : Outcomeless w (w.close run) := by
  obtain ⟨inFlight, hunregister⟩ := unregister_eq w run
  unfold close
  rw [hunregister]
  simp only
  split
  · let w' : Watcher := { w with inFlight, dirty := w.dirty.filter (· != run.document) }
    have hdispatch : Outcomeless w' (w'.dispatch run.document).1 :=
      dispatch_outcomeless w' run.document
    exact Outcomeless.cons { hdispatch with } rfl rfl
  · exact ⟨rfl, rfl, rfl⟩

/-! ## Steps with outcomes -/

/-- What was due and what came due is what is delivered and what is due then.  Whoever
is shown outcomes is shown those that are delivered. -/
structure Settles (setup : Setup) (w : Watcher) (came : List (Run × Outcome))
    (effect : Effect) : Prop where
  delivered : (deliveries effect.2 ++ effect.1.undelivered).Perm (w.undelivered ++ came)
  shown : setup.display.isSome → shownOutcomes effect.2 = (deliveries effect.2).map presented
  hidden : setup.display = none → shownOutcomes effect.2 = []

theorem Outcomeless.settles {effect : Effect} (h : Outcomeless w effect) (setup : Setup) :
    Settles setup w [] effect where
  delivered := by simp [h.undelivered, h.deliveries]
  shown := fun _ => by simp [h.shown, h.deliveries]
  hidden := fun _ => h.shown

/-- A run that goes on delivers its outcome, if it has one. -/
theorem closing_delivers (setup : Setup) (run : Run) (ending : Ending) :
    deliveries (closing setup run ending) = (Job.resume run ending).delivery?.toList ∧
      (setup.display.isSome → shownOutcomes (closing setup run ending) =
        (deliveries (closing setup run ending)).map presented) ∧
      (setup.display = none → shownOutcomes (closing setup run ending) = []) := by
  cases ending with
  | raised fault => exact ⟨rfl, fun _ => rfl, fun _ => rfl⟩
  | returned outcome =>
    cases hdisplay : setup.display with
    | none =>
      simp only [closing, hdisplay]
      exact ⟨rfl, fun h => absurd h (by decide), fun _ => rfl⟩
    | some display =>
      simp only [closing, hdisplay, reduceCtorEq, false_implies, and_true]
      cases display run.document outcome <;> exact ⟨rfl, fun _ => rfl⟩

/-- A job settles the outcome that it takes up. -/
theorem perform_settles (setup : Setup) (tree : Tree) (w : Watcher) (job : Job) :
    Settles setup w job.delivery?.toList (perform setup tree w job) := by
  cases job with
  | begin run => exact (begin_outcomeless w run).settles setup
  | wake run => exact (wake_outcomeless w run).settles setup
  | close run => exact (close_outcomeless w run).settles setup
  | event kind path =>
    exact ((outcomeless_additive setup).perform_event tree w kind path).settles setup
  | resume run ending =>
    obtain ⟨hdeliveries, hshown, hhidden⟩ := closing_delivers setup run ending
    have hundelivered : (w.resume setup run ending).1.undelivered = w.undelivered := by
      have hrelease := releaseSlot_undelivered w
      simp only [undelivered] at hrelease
      simp [resume, undelivered, List.filterMap_cons, Job.delivery?, hrelease]
    refine ⟨?_, hshown, hhidden⟩
    show (deliveries (closing setup run ending) ++ _).Perm _
    rw [hdeliveries]
    show (_ ++ (w.resume setup run ending).1.undelivered).Perm _
    rw [hundelivered]
    exact List.perm_append_comm

/-- The end of a compilation makes its outcome due. -/
theorem finish_settles (setup : Setup) (w : Watcher) (document : Location) (ending : Ending) :
    Settles setup w (w.returned? (.finish document ending)).toList
      ((w.finish document ending).getD w, []) := by
  refine ⟨?_, fun _ => rfl, fun _ => rfl⟩
  have hundelivered : ((w.finish document ending).getD w).undelivered =
      w.undelivered ++ (w.returned? (.finish document ending)).toList := by
    unfold finish
    cases hfind : w.running.find? fun run => run.document == document with
    | none => cases ending <;> simp [returned?, hfind]
    | some run =>
      cases ending <;> simp [returned?, hfind, undelivered, List.filterMap_cons, Job.delivery?]
  rw [hundelivered]
  exact .refl _

theorem act_settles (setup : Setup) (w : Watcher) (action : Action) :
    Settles setup w (w.returned? action).toList (w.act setup action) := by
  cases action with
  | start tree refusal path =>
    exact ((outcomeless_additive setup).start tree refusal path w).settles setup
  | event tree kind path =>
    exact ((outcomeless_additive setup).perform_event tree w kind path).settles setup
  | handOver kind path =>
    have henqueue : Outcomeless w (w.enqueue kind path, []) :=
      ⟨by simp [enqueue, undelivered, List.filterMap_cons, Job.delivery?], rfl, rfl⟩
    exact henqueue.settles setup
  | stop => exact ((outcomeless_additive setup).stop w).settles setup
  | finish document ending => exact finish_settles setup w document ending
  | job tree index =>
    simp only [act]
    split
    · exact (Outcomeless.refl w).settles setup
    · next job h =>
      obtain ⟨hindex, rfl⟩ := List.getElem?_eq_some_iff.mp h
      let w' : Watcher := { w with ready := w.ready.eraseIdx index }
      have hjob : Settles setup w' w.ready[index].delivery?.toList
          (perform setup tree w' w.ready[index]) := perform_settles setup tree w' w.ready[index]
      -- What the job takes up was due before.
      have hdue : (w'.undelivered ++ w.ready[index].delivery?.toList).Perm w.undelivered := by
        have hperm := (List.getElem_cons_eraseIdx_perm hindex).filterMap Job.delivery?
        refine .trans ?_ hperm
        refine List.perm_append_comm.trans (.of_eq ?_)
        cases hdelivery : w.ready[index].delivery? <;>
          simp [undelivered, w', hdelivery]
      exact ⟨by simpa [returned?] using hjob.delivered.trans hdue, hjob.shown, hjob.hidden⟩

/-- A history delivers every outcome that a call returned, except those that are still
due. -/
theorem playEach_settles (w : Watcher) (steps : List Occasion) :
    (deliveries (playEach w steps).2 ++ (playEach w steps).1.undelivered).Perm
        (w.undelivered ++ returns w steps) ∧
      ((∀ step ∈ steps, step.setup.display.isSome) →
        shownOutcomes (playEach w steps).2 = (deliveries (playEach w steps).2).map presented) ∧
      ((∀ step ∈ steps, step.setup.display = none) → shownOutcomes (playEach w steps).2 = []) := by
  induction steps generalizing w with
  | nil => exact ⟨by simp [playEach, returns, deliveries], fun _ => rfl, fun _ => rfl⟩
  | cons step rest ih =>
    have hfirst := act_settles step.setup w step.action
    obtain ⟨hdelivered, hshown, hhidden⟩ := ih (w.act step.setup step.action).1
    refine ⟨?_, fun hdisplay => ?_, fun hdisplay => ?_⟩
    · simp only [playEach, returns, deliveries_append, List.append_assoc]
      refine (hdelivered.append_left _).trans ?_
      rw [← List.append_assoc, ← List.append_assoc]
      exact hfirst.delivered.append_right _
    · simp only [playEach, shownOutcomes_append, deliveries_append, List.map_append]
      rw [hfirst.shown (hdisplay step List.mem_cons_self),
        hshown fun other hmem => hdisplay other (List.mem_cons_of_mem _ hmem)]
    · simp only [playEach, shownOutcomes_append]
      rw [hfirst.hidden (hdisplay step List.mem_cons_self),
        hhidden fun other hmem => hdisplay other (List.mem_cons_of_mem _ hmem), List.append_nil]

/-! ## Every call returns at most once -/

/-- No compilation ends twice. -/
theorem Ledger.Move.nodup_endings {l l' : Ledger} (hmove : l.Move reports l')
    (haccounts : l.Accounts trace) (htrace : (endings trace).Nodup) :
    (endings (trace ++ reports)).Nodup := by
  rw [endings, List.filterMap_append]
  cases hmove with
  | aside haside => simpa [endings, haside.tells_nothing.2.2.1] using htrace
  | merge | mark | dispatch | call | close | renew =>
    show (endings trace ++ []).Nodup
    rwa [List.append_nil]
  | @finish run outcome hrun =>
    have hopen : run ∉ endings trace := ((haccounts.opened run).mp hrun).2
    exact nodup_concat htrace hopen

theorem Ledger.Moves.nodup_endings {l l' : Ledger} (hmoves : l.Moves reports l')
    (hsound : l.Sound) (haccounts : l.Accounts trace) (htrace : (endings trace).Nodup) :
    (endings (trace ++ reports)).Nodup := by
  induction hmoves generalizing trace with
  | refl => simpa using htrace
  | step move _ ih =>
    rw [← List.append_assoc]
    exact ih (move.sound hsound) (move.accounts hsound haccounts)
      (move.nodup_endings haccounts htrace)

/-- A history whose setups change is a sequence of moves, too. -/
theorem playEach_follows (steps : List Occasion) (hw : w.InOrder) :
    Follows w (playEach w steps) := by
  induction steps generalizing w with
  | nil => exact ⟨.refl, hw.woken⟩
  | cons step rest ih =>
    have hfirst : Follows w (w.act step.setup step.action) :=
      act_follows step.setup step.action hw
    exact hfirst.trans (ih (hfirst.inOrder hw))

/-- What one reading of a list finds, a reading that finds more finds in the same order. -/
theorem map_filterMap_sublist {α β γ : Type} {f : α → Option β} {g : β → γ} {h : α → Option γ}
    (hfinds : ∀ x y, f x = some y → h x = some (g y)) (xs : List α) :
    ((xs.filterMap f).map g).Sublist (xs.filterMap h) := by
  induction xs with
  | nil => exact .slnil
  | cons x rest ih =>
    cases hx : f x with
    | none =>
      rw [List.filterMap_cons_none hx]
      cases hother : h x with
      | none => rwa [List.filterMap_cons_none hother]
      | some z =>
        rw [List.filterMap_cons_some hother]
        exact ih.cons z
    | some y =>
      rw [List.filterMap_cons_some hx, List.filterMap_cons_some (hfinds x y hx)]
      exact ih.cons_cons (g y)

/-- The calls that return are calls, and none of them returns twice. -/
theorem returns_are_calls (bound : Int) (steps : List Occasion) :
    ((returns (new bound) steps).map Prod.fst).Nodup ∧
      ∀ run ∈ (returns (new bound) steps).map Prod.fst,
        run ∈ calls (playEach (new bound) steps).2 := by
  let w := (playEach (new bound) steps).1
  let trace := (playEach (new bound) steps).2
  have hfollows : Follows (new bound) (w, trace) := playEach_follows steps (new_inOrder bound)
  have hsound : w.ledger.Sound := (hfollows.inOrder (new_inOrder bound)).sound
  have haccounts : w.ledger.Accounts trace :=
    hfollows.moves.accounts (new_inOrder bound).sound (new_accounts bound)
  have hended : (endings trace).Nodup :=
    hfollows.moves.nodup_endings (new_inOrder bound).sound (new_accounts bound) List.nodup_nil
  have hresumed : (w.ready.filterMap Job.resumes?).Nodup :=
    (Multiset.coe_nodup.mp hsound.nodup_opened).sublist (List.sublist_append_left _ _)
  have hopen : ∀ run ∈ w.ready.filterMap Job.resumes?, run ∈ calls trace ∧ run ∉ endings trace :=
    fun run hrun =>
      (haccounts.opened run).mp (Multiset.mem_coe.mpr (List.mem_append_left _ hrun))
  -- A call that has returned has ended, or its run is ready to go on.
  have hreturned : ((returns (new bound) steps).map Prod.fst).Perm
      ((deliveries trace).map Prod.fst ++ w.undelivered.map Prod.fst) := by
    rw [← List.map_append]
    exact ((playEach_settles (new bound) steps).1.map Prod.fst).symm
  have hdeliveries : ((deliveries trace).map Prod.fst).Sublist (endings trace) := by
    refine map_filterMap_sublist ?_ trace
    rintro report delivery hdelivery
    cases report with
    | ended run outcome =>
      cases outcome with
      | none => cases hdelivery
      | some outcome =>
        cases hdelivery
        rfl
    | entry | accepted | dispatched | called | shown | closed | observer => cases hdelivery
  have hundelivered :
      (w.undelivered.map Prod.fst).Sublist (w.ready.filterMap Job.resumes?) := by
    refine map_filterMap_sublist ?_ w.ready
    rintro job delivery hdelivery
    cases job with
    | resume run ending =>
      cases ending with
      | raised fault => cases hdelivery
      | returned outcome =>
        cases hdelivery
        rfl
    | begin | wake | close | event => cases hdelivery
  refine ⟨?_, fun run hrun => ?_⟩
  · refine hreturned.nodup_iff.mpr (List.nodup_append.mpr
      ⟨hended.sublist hdeliveries, hresumed.sublist hundelivered, ?_⟩)
    rintro run hdelivered _ hwaiting rfl
    exact (hopen run (hundelivered.subset hwaiting)).2 (hdeliveries.subset hdelivered)
  · rcases List.mem_append.mp (hreturned.subset hrun) with hdelivered | hwaiting
    · exact haccounts.endings_subset run (hdeliveries.subset hdelivered)
    · exact (hopen run (hundelivered.subset hwaiting)).1

/-! ## The schedule -/

/-- The veil hides nothing of phase, register and follow-ups. -/
theorem agree_of_veiled (h : w.veiled = w'.veiled) :
    w.phase = w'.phase ∧ w.inFlight = w'.inFlight ∧ w.dirty = w'.dirty := by
  have hphase : w.veiled.phase = w'.veiled.phase := by rw [h]
  have hinFlight : w.veiled.inFlight = w'.veiled.inFlight := by rw [h]
  have hdirty : w.veiled.dirty = w'.veiled.dirty := by rw [h]
  exact ⟨hphase, hinFlight, hdirty⟩

/-- Two histories that differ only in how compilations end, and in who is shown the
outcomes and what comes of it, begin the same compilations in the same order, and have
phase, register and follow-ups in common after every action.  In each of them, who is
shown outcomes is shown the outcome of every call that returned one and whose run has
gone on, once and with the document of the run, and is shown nothing else. -/
theorem endings_leave_schedule_alone (bound : Int) {steps steps' : List Occasion}
    (halike : steps.map Occasion.veiled = steps'.map Occasion.veiled) :
    (∀ n,
      let one := playEach (new bound) (steps.take n)
      let other := playEach (new bound) (steps'.take n)
      calls one.2 = calls other.2 ∧ one.1.phase = other.1.phase ∧
        one.1.inFlight = other.1.inFlight ∧ one.1.dirty = other.1.dirty) ∧
    ∀ history ∈ [steps, steps'],
      let w := (playEach (new bound) history).1
      let trace := (playEach (new bound) history).2
      let returned := returns (new bound) history
      (returned.map Prod.fst).Nodup ∧ (∀ run ∈ returned.map Prod.fst, run ∈ calls trace) ∧
        ((∀ step ∈ history, step.setup.display.isSome) →
          (shownOutcomes trace ++ w.undelivered.map presented).Perm (returned.map presented)) ∧
        ((∀ step ∈ history, step.setup.display = none) → shownOutcomes trace = []) := by
  refine ⟨fun n => ?_, fun history _ => ?_⟩
  · have htake : (steps.take n).map Occasion.veiled = (steps'.take n).map Occasion.veiled := by
      rw [List.map_take, List.map_take, halike]
    have hsame : Effect.veiled (playEach (new bound) (steps.take n)) =
        Effect.veiled (playEach (new bound) (steps'.take n)) := playEach_congr rfl htake
    have hstate : (playEach (new bound) (steps.take n)).1.veiled =
        (playEach (new bound) (steps'.take n)).1.veiled := congrArg Prod.fst hsame
    refine ⟨?_, agree_of_veiled hstate⟩
    rw [← calls_veiledTrace, ← calls_veiledTrace (playEach (new bound) (steps'.take n)).2]
    exact congrArg (fun effect : Effect => calls effect.2) hsame
  · obtain ⟨hnodup, hcalls⟩ := returns_are_calls bound history
    obtain ⟨hdelivered, hshown, hhidden⟩ := playEach_settles (new bound) history
    refine ⟨hnodup, hcalls, fun hdisplay => ?_, hhidden⟩
    rw [hshown hdisplay, ← List.map_append]
    exact hdelivered.map presented

/-! ## A failure, and an outcome that cannot be shown -/

/-- The occasions of a history with one setup. -/
def occasions (setup : Setup) (actions : List Action) : List Occasion :=
  actions.map (Occasion.mk setup)

def sampleOutcome : Outcome := .succeeded "/w/a.js" "javascript"

/-- Outcomes are shown, and showing them always fails. -/
def refusingSetup : Setup := { sampleSetup with display := some fun _ _ => some .embeddedNul }

/-- What happens in `changedTwice`, except that the first compilation returns and the
second one raises a fault. -/
def changedTwiceOtherwise : List Action :=
  [.start sampleTree .never (Path.ofText "/w"), .event sampleTree added "a.gpt",
    .job sampleTree 0, .event sampleTree changed "a.gpt", .stop,
    .finish sampleDocument (.returned sampleOutcome), .job sampleTree 0, .job sampleTree 0,
    .job sampleTree 0, .finish sampleDocument (.raised .embeddedNul),
    .job sampleTree 0, .job sampleTree 0]

/-- Both documents are compiled twice; the outcome is shown to whom it concerns. -/
theorem failures_leave_schedule_alone :
    let quiet := playEach (new 1) (occasions sampleSetup changedTwice)
    let refused := playEach (new 1) (occasions refusingSetup changedTwiceOtherwise)
    calls quiet.2 = calls refused.2 ∧ (calls quiet.2).length = 2 ∧ shownOutcomes quiet.2 = [] ∧
      (shownOutcomes refused.2).Perm [(sampleDocument, sampleOutcome)] := by
  have halike : (occasions sampleSetup changedTwice).map Occasion.veiled =
      (occasions refusingSetup changedTwiceOtherwise).map Occasion.veiled := rfl
  obtain ⟨hsame, hshown⟩ := endings_leave_schedule_alone 1 halike
  have hquiet : ∀ step ∈ occasions sampleSetup changedTwice, step.setup.display = none := by
    intro step hstep
    obtain ⟨action, -, rfl⟩ := List.mem_map.mp hstep
    rfl
  have hrefused : ∀ step ∈ occasions refusingSetup changedTwiceOtherwise,
      step.setup.display.isSome := by
    intro step hstep
    obtain ⟨action, -, rfl⟩ := List.mem_map.mp hstep
    rfl
  have hcalls : calls (playEach (new 1) (occasions sampleSetup changedTwice)).2 =
      calls (playEach (new 1) (occasions refusingSetup changedTwiceOtherwise)).2 :=
    (hsame 12).1
  have htwo : (calls (playEach (new 1) (occasions sampleSetup changedTwice)).2).length = 2 := by
    decide +kernel
  have hreturned : returns (new 1) (occasions refusingSetup changedTwiceOtherwise) =
      [(⟨0, sampleDocument⟩, sampleOutcome)] := by decide +kernel
  have hgone :
      (playEach (new 1) (occasions refusingSetup changedTwiceOtherwise)).1.undelivered = [] := by
    decide +kernel
  obtain ⟨-, -, -, hnothing⟩ := hshown _ List.mem_cons_self
  obtain ⟨-, -, honce, -⟩ := hshown _ (List.mem_cons_of_mem _ List.mem_cons_self)
  have honce := honce hrefused
  rw [hreturned, hgone, List.map_nil, List.append_nil] at honce
  exact ⟨hcalls, htwo, hnothing hquiet, honce⟩

end ProseCompiler.Watcher
