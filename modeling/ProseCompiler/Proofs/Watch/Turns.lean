import ProseCompiler.Proofs.Watch.Delivery
import ProseCompiler.Proofs.Watch.Slots

/-!
# Runs begin in the order of their dispatch

Jobs that begin runs are done in the order in which they became ready, and so are
jobs that wake runs; of other jobs nothing is assumed.  A history that keeps to
this is `Orderly`.  Doing all jobs in the order in which they became ready is one
way to keep to it (`settle_orderly`).

In an orderly history the runs that were dispatched and have not been called form
one line: those that wait for a slot, and behind them those that have not begun.
A run is dispatched to the end of the line and called from its front.  So the calls
are, in this order, the first of the dispatches, and
`calls_fill_slots_in_order` puts this together with how many of them are open.
-/

namespace ProseCompiler.Watcher

/-! ## Turns -/

/-- No job of the same kind became ready earlier, if the job begins or wakes a
run. -/
def Job.InTurn (earlier : List Job) (job : Job) : Prop :=
  (job.begins? ≠ none → earlier.filterMap Job.begins? = []) ∧
    (job.wakes? ≠ none → earlier.filterMap Job.wakes? = [])

/-- An action does not do a job before its turn. -/
def Action.InTurn (w : Watcher) : Action → Prop
  | .job _ index => ∀ job, w.ready[index]? = some job → job.InTurn (w.ready.take index)
  | _ => True

/-- No job is done before its turn. -/
def Orderly (setup : Setup) : Watcher → List Action → Prop
  | _, [] => True
  | w, action :: rest => action.InTurn w ∧ Orderly setup (w.act setup action).1 rest

/-- A history that always does the job that became ready first is orderly. -/
theorem orderly_of_first {setup : Setup} {w : Watcher} {actions : List Action}
    (h : ∀ tree index, Action.job tree index ∈ actions → index = 0) :
    Orderly setup w actions := by
  induction actions generalizing w with
  | nil => trivial
  | cons action rest ih =>
    refine ⟨?_, ih fun tree index hmem => h tree index (List.mem_cons_of_mem _ hmem)⟩
    cases action with
    | start | event | handOver | stop | finish => trivial
    | job tree index =>
      obtain rfl := h tree index List.mem_cons_self
      exact fun job _ => ⟨fun _ => rfl, fun _ => rfl⟩

/-- Doing all jobs in the order in which they became ready is an orderly
history. -/
theorem settle_orderly (setup : Setup) (tree : Tree) (w : Watcher) :
    ∃ actions, Orderly setup w actions ∧ w.settle setup tree = play setup w actions := by
  obtain ⟨actions, hfirst, hsettle⟩ := settle_eq_play setup tree w
  exact ⟨actions, orderly_of_first hfirst, hsettle⟩

/-- What is read off the jobs does not change if a job comes to the front that is
the first of those that it is read off. -/
theorem filterMap_cons_eraseIdx {f : Job → Option Run} {jobs : List Job} {index : Nat} {job : Job}
    (h : jobs[index]? = some job) (hfirst : f job ≠ none → (jobs.take index).filterMap f = []) :
    (job :: jobs.eraseIdx index).filterMap f = jobs.filterMap f := by
  obtain ⟨hindex, rfl⟩ := List.getElem?_eq_some_iff.mp h
  have hjobs : jobs = jobs.take index ++ jobs[index] :: jobs.drop (index + 1) := by simp
  rw [List.eraseIdx_eq_take_drop_succ, List.filterMap_cons, List.filterMap_append]
  conv_rhs => rw [hjobs, List.filterMap_append, List.filterMap_cons]
  cases hf : f jobs[index] with
  | none => rfl
  | some run => simp [hfirst (by simp [hf])]

/-! ## The line -/

/-- The runs that have not been called, in the order in which they will be. -/
def line (w : Watcher) : List Run :=
  w.waiting.map Waiter.run ++ w.ready.filterMap Job.begins?

/-- Those who were woken come first among the waiters, and wake in their order. -/
structure InLine (w : Watcher) : Prop where
  wokenFirst : w.waiting.Pairwise fun first second =>
    second.isWoken = true → first.isWoken = true
  wakes : w.ready.filterMap Job.wakes? = (w.waiting.filter Waiter.isWoken).map Waiter.run

/-- Dispatches go to the end of the line and calls come from its front. -/
structure Advances (w : Watcher) (effect : Effect) : Prop where
  line : w.line ++ dispatches effect.2 = calls effect.2 ++ effect.1.line
  inLine : effect.1.InLine

variable {w w' w'' : Watcher} {run : Run} {reports more : List Report}

theorem Advances.trans (hfirst : Advances w (w', reports)) (hsecond : Advances w' (w'', more)) :
    Advances w (w'', reports ++ more) where
  line := calc
    w.line ++ dispatches (reports ++ more)
        = (w.line ++ dispatches reports) ++ dispatches more := by
      rw [dispatches_append, List.append_assoc]
    _ = calls reports ++ (w'.line ++ dispatches more) := by
      rw [hfirst.line, List.append_assoc]
    _ = calls (reports ++ more) ++ w''.line := by
      rw [hsecond.line, calls_append, List.append_assoc]
  inLine := hsecond.inLine

theorem TakesIn.advances {effect : Effect} (h : TakesIn w effect) (hw : w.InLine) :
    Advances w effect where
  line := by simp [Watcher.line, h.waiting, h.begins, h.calls]
  inLine := by
    refine ⟨?_, ?_⟩
    · rw [h.waiting]
      exact hw.wokenFirst
    · rw [h.wakes, h.waiting]
      exact hw.wakes

/-! ## Slots and the line -/

/-- Nobody in a list was woken behind somebody who was not. -/
theorem filter_isWoken_eq_nil {waiter : Waiter} {rest : List Waiter}
    (hfirst : ∀ other ∈ rest, other.isWoken = true → waiter.isWoken = true)
    (hwaiter : waiter.isWoken = false) : rest.filter Waiter.isWoken = [] := by
  rw [List.filter_eq_nil_iff]
  intro other hother hwoken
  rw [hfirst other hother hwoken] at hwaiter
  cases hwaiter

/-- The next to be woken stands right behind those who were. -/
theorem wokenFirst_inLine {waiters woken : List Waiter}
    (hfirst : waiters.Pairwise fun first second => second.isWoken = true → first.isWoken = true)
    (h : wokenFirst waiters = some (woken, run)) :
    (woken.Pairwise fun first second => second.isWoken = true → first.isWoken = true) ∧
      (woken.filter Waiter.isWoken).map Waiter.run =
        (waiters.filter Waiter.isWoken).map Waiter.run ++ [run] := by
  induction waiters generalizing woken with
  | nil => cases h
  | cons waiter rest ih =>
    obtain ⟨hhead, htail⟩ := List.pairwise_cons.mp hfirst
    rw [Watcher.wokenFirst] at h
    by_cases hwaiter : waiter.isWoken = true
    · rw [if_pos hwaiter] at h
      obtain ⟨⟨others, other⟩, hrest, heq⟩ := Option.map_eq_some_iff.mp h
      cases heq
      obtain ⟨hpairwise, hruns⟩ := ih htail hrest
      refine ⟨List.pairwise_cons.mpr ⟨fun _ _ _ => hwaiter, hpairwise⟩, ?_⟩
      simp [hwaiter, hruns]
    · rw [if_neg hwaiter] at h
      cases h
      have hnone := filter_isWoken_eq_nil hhead (Bool.eq_false_iff.mpr hwaiter)
      refine ⟨List.pairwise_cons.mpr ⟨fun _ _ _ => rfl, htail⟩, ?_⟩
      simp [hwaiter, hnone]

theorem wakeNext_inLine (hw : w.InLine) : w.wakeNext.InLine ∧ w.wakeNext.line = w.line := by
  unfold wakeNext
  split
  · exact ⟨hw, rfl⟩
  · rename_i waiting run h
    obtain ⟨hruns, -⟩ := wokenFirst_eq_some h
    obtain ⟨hpairwise, hwoken⟩ := wokenFirst_inLine hw.wokenFirst h
    refine ⟨⟨hpairwise, ?_⟩, ?_⟩
    · rw [hwoken, ← hw.wakes]
      simp [Job.wakes?]
    · simp [line, hruns, Job.begins?, List.filterMap_cons]

theorem releaseSlot_inLine (hw : w.InLine) :
    w.releaseSlot.InLine ∧ w.releaseSlot.line = w.line := by
  unfold releaseSlot
  split
  · exact ⟨hw, rfl⟩
  · rename_i free _
    have hfreed : ({ w with slots := some (free + 1) } : Watcher).InLine :=
      ⟨hw.wokenFirst, hw.wakes⟩
    exact wakeNext_inLine hfreed

theorem offerSlot_inLine (hw : w.InLine) : w.offerSlot.InLine ∧ w.offerSlot.line = w.line := by
  unfold offerSlot
  split
  · exact ⟨hw, rfl⟩
  · exact ⟨hw, rfl⟩
  · exact wakeNext_inLine hw

/-! ## Jobs -/

/-- A run is called from the front of the line. -/
theorem call_advances (hline : w.line = run :: w'.line) (hw' : w'.InLine) :
    Advances w (w'.call run) where
  line := by
    simp only [call, dispatches, calls, List.filterMap_cons, Report.dispatched?, Report.called?,
      List.filterMap_nil, List.append_nil]
    exact hline
  inLine := ⟨hw'.wokenFirst, hw'.wakes⟩

theorem begin_advances (hw : (w.withJob (.begin run)).InLine)
    (hunbounded : w.slots = none → w.waiting = []) :
    Advances (w.withJob (.begin run)) (w.begin run) := by
  have hinLine : w.InLine := ⟨hw.wokenFirst, hw.wakes⟩
  have hline : (w.withJob (.begin run)).line =
      w.waiting.map Waiter.run ++ run :: w.ready.filterMap Job.begins? := rfl
  -- A run is called at once only if nobody waits.
  have hcalled : ∀ slots, w.waiting = [] → (w.withJob (.begin run)).line =
      run :: ({ w with slots } : Watcher).line := by
    intro slots hwaiting
    rw [hline, line, hwaiting]
    rfl
  unfold begin
  split
  · next hslots =>
    exact call_advances (hcalled w.slots (hunbounded hslots)) hinLine
  · split
    · refine ⟨?_, ?_, ?_⟩
      · rw [hline]
        simp [dispatches, calls, line]
      · refine List.pairwise_append.mpr ⟨hinLine.wokenFirst, List.pairwise_singleton .., ?_⟩
        intro first _ second hsecond hwoken
        rw [List.mem_singleton.mp hsecond] at hwoken
        cases hwoken
      · simpa using hinLine.wakes
    · next hidle =>
      rw [not_or, not_not] at hidle
      exact call_advances (hcalled _ hidle.2) ⟨hinLine.wokenFirst, hinLine.wakes⟩

/-- The first to wake is the first in line. -/
theorem head_of_wakes {waiters : List Waiter} {others : List Run}
    (hfirst : waiters.Pairwise fun first second => second.isWoken = true → first.isWoken = true)
    (h : run :: others = (waiters.filter Waiter.isWoken).map Waiter.run) :
    ∃ rest, waiters = ⟨run, true⟩ :: rest ∧
      others = (rest.filter Waiter.isWoken).map Waiter.run := by
  cases waiters with
  | nil => cases h
  | cons waiter rest =>
    obtain ⟨hhead, -⟩ := List.pairwise_cons.mp hfirst
    obtain ⟨other, isWoken⟩ := waiter
    cases isWoken with
    | false =>
      have hnone := filter_isWoken_eq_nil hhead rfl
      simp [hnone] at h
    | true =>
      simp only [List.filter_cons, if_true, List.map_cons, List.cons.injEq] at h
      obtain ⟨rfl, hothers⟩ := h
      exact ⟨rest, rfl, hothers⟩

theorem wake_advances (horder : (w.withJob (.wake run)).InOrder)
    (hw : (w.withJob (.wake run)).InLine) :
    Advances (w.withJob (.wake run)) (w.wake run) := by
  have hwakes : run :: w.ready.filterMap Job.wakes? =
      (w.waiting.filter Waiter.isWoken).map Waiter.run := hw.wakes
  obtain ⟨rest, hwaiting, hothers⟩ := head_of_wakes hw.wokenFirst hwakes
  change w.waiting = _ at hwaiting
  have hrest : (w.waiting.filter fun waiter => waiter.run != run) = rest := by
    have hnodup : (w.waiting.map Waiter.run).Nodup := horder.nodup_waiting
    rw [hwaiting, List.map_cons, List.nodup_cons] at hnodup
    have hothers : ∀ waiter ∈ rest, (waiter.run != run) = true := by
      intro waiter hwaiter
      rw [bne_iff_ne]
      exact fun heq => hnodup.1 (List.mem_map.mpr ⟨waiter, hwaiter, heq⟩)
    rw [hwaiting, List.filter_cons, List.filter_eq_self.mpr hothers]
    simp
  have hpairwise : w.waiting.Pairwise _ := hw.wokenFirst
  rw [hwaiting] at hpairwise
  have hwithout : ({ w with waiting := rest } : Watcher).InLine :=
    ⟨(List.pairwise_cons.mp hpairwise).2, hothers⟩
  obtain ⟨hinLine, hsame⟩ := offerSlot_inLine hwithout
  rw [wake, hrest]
  refine call_advances ?_ hinLine
  rw [hsame]
  change w.waiting.map Waiter.run ++ _ = _
  rw [hwaiting]
  rfl

theorem resume_advances {setup : Setup} {ending : Ending}
    (hw : (w.withJob (.resume run ending)).InLine) :
    Advances (w.withJob (.resume run ending)) (w.resume setup run ending) := by
  obtain ⟨hinLine, hsame⟩ := releaseSlot_inLine (w := w) ⟨hw.wokenFirst, hw.wakes⟩
  obtain ⟨notes, outcome, hclosing, haside⟩ := closing_eq setup run ending
  obtain ⟨hdispatches, hcalls⟩ := no_runs_of_asides haside
  have hline : (w.withJob (.resume run ending)).line = w.releaseSlot.line := hsame.symm
  refine ⟨?_, hinLine.wokenFirst, ?_⟩
  · rw [resume, hclosing, dispatches_append, calls_append, hdispatches, hcalls, hline]
    simp [line, dispatches, calls, Report.dispatched?, Report.called?, Job.begins?,
      List.filterMap_cons]
  · simpa [resume, Job.wakes?, List.filterMap_cons] using hinLine.wakes

theorem perform_advances {setup : Setup} {tree : Tree} {job : Job}
    (horder : (w.withJob job).InOrder) (hunbounded : w.slots = none → w.waiting = [])
    (hw : (w.withJob job).InLine) : Advances (w.withJob job) (perform setup tree w job) := by
  cases job with
  | begin run => exact begin_advances hw hunbounded
  | wake run => exact wake_advances horder hw
  | resume run ending => exact resume_advances hw
  | close run =>
    have hadvances : Advances w (w.close run) :=
      (close_takesIn w run).advances ⟨hw.wokenFirst, hw.wakes⟩
    exact ⟨hadvances.line, hadvances.inLine⟩
  | event kind path =>
    have hadvances : Advances w (perform setup tree w (.event kind path)) :=
      ((takesIn_additive setup).perform_event tree w kind path).advances ⟨hw.wokenFirst, hw.wakes⟩
    exact ⟨hadvances.line, hadvances.inLine⟩

/-! ## Actions and histories -/

theorem finish_advances {document : Location} {ending : Ending} (hw : w.InLine) :
    Advances w ((w.finish document ending).getD w, []) := by
  cases h : w.finish document ending with
  | none => exact ⟨by simp [dispatches, calls], hw⟩
  | some w' =>
    obtain ⟨run, -, rfl⟩ := Option.map_eq_some_iff.mp h
    refine ⟨?_, hw.wokenFirst, ?_⟩
    · simp [line, dispatches, calls, Job.begins?, List.filterMap_cons]
    · simpa [Job.wakes?, List.filterMap_cons] using hw.wakes

/-- Every action that does no job before its turn keeps the order of the line. -/
theorem act_advances (setup : Setup) {action : Action} (horder : w.InOrder)
    (hunbounded : w.slots = none → w.waiting = []) (hw : w.InLine) (hturn : action.InTurn w) :
    Advances w (w.act setup action) := by
  cases action with
  | start tree refusal path =>
    exact ((takesIn_additive setup).start tree refusal path w).advances hw
  | event tree kind path =>
    exact ((takesIn_additive setup).perform_event tree w kind path).advances hw
  | handOver kind path => exact (enqueue_takesIn w kind path).advances hw
  | stop => exact ((takesIn_additive setup).stop w).advances hw
  | finish document ending => exact finish_advances hw
  | job tree index =>
    simp only [act]
    split
    · exact ⟨by simp [dispatches, calls], hw⟩
    · rename_i job h
      obtain ⟨hbegins, hwakes⟩ := hturn job h
      obtain ⟨hindex, rfl⟩ := List.getElem?_eq_some_iff.mp h
      let w' : Watcher := { w with ready := w.ready.eraseIdx index }
      have hperm : (w'.withJob w.ready[index]).ready.Perm w.ready :=
        List.getElem_cons_eraseIdx_perm hindex
      have hfront : (w'.withJob w.ready[index]).InLine :=
        ⟨hw.wokenFirst, (filterMap_cons_eraseIdx h hwakes).trans hw.wakes⟩
      have hline : (w'.withJob w.ready[index]).line = w.line :=
        congrArg (w.waiting.map Waiter.run ++ ·) (filterMap_cons_eraseIdx h hbegins)
      have hjob : Advances (w'.withJob w.ready[index]) (perform setup tree w' w.ready[index]) :=
        perform_advances (horder.withReady hperm) hunbounded hfront
      exact ⟨hline ▸ hjob.line, hjob.inLine⟩

theorem play_advances (setup : Setup) {actions : List Action} {bound : Option Nat}
    (horder : w.InOrder) (hslots : w.Allotted bound) (hw : w.InLine)
    (horderly : Orderly setup w actions) : Advances w (play setup w actions) := by
  induction actions generalizing w with
  | nil => exact ⟨by simp [play, dispatches, calls], hw⟩
  | cons action rest ih =>
    have hfirst : Advances w (w.act setup action) :=
      act_advances setup horder hslots.unbounded hw horderly.1
    have hfollows : Follows w (w.act setup action) := act_follows setup action horder
    have hallotted := act_allotted setup action horder hslots
    exact hfirst.trans (ih (hfollows.inOrder horder) hallotted hfirst.inLine horderly.2)

theorem new_inLine (bound : Int) : (new bound).InLine := ⟨.nil, rfl⟩

/-- After every history of a watcher with a bound, no more compilations are open
than the bound says, and if no job is ready, as many are open as the bound and the
registered runs allow.  Without a bound those of all registered runs are open then.
In an orderly history the compilations begin in the order in which their runs were
dispatched. -/
theorem calls_fill_slots_in_order (setup : Setup) (bound : Int) (actions : List Action) :
    let w := (play setup (new bound) actions).1
    let trace := (play setup (new bound) actions).2
    (0 < bound → (openCalls trace).length ≤ bound) ∧
      (0 < bound → w.ready = [] → (openCalls trace).length = min bound w.inFlight.length) ∧
      (bound ≤ 0 → w.ready = [] → (openCalls trace).length = w.inFlight.length) ∧
      (Orderly setup (new bound) actions → calls trace <+: dispatches trace) := by
  intro w trace
  have horder : w.InOrder :=
    (play_follows setup actions (new_inOrder bound)).inOrder (new_inOrder bound)
  have hslots : w.Allotted (new bound).slots :=
    play_allotted setup actions (new_inOrder bound) (new_allotted bound)
  have hopen : (openCalls trace).length = w.openCount := openCalls_length setup bound actions
  have hbounded : 0 < bound → (new bound).slots = some bound.toNat := fun h => if_pos h
  refine ⟨fun hbound => ?_, fun hbound hquiet => ?_, fun hbound hquiet => ?_, fun horderly => ?_⟩
  · have haccount := hslots.account
    rw [hbounded hbound, Option.map_eq_some_iff] at haccount
    obtain ⟨free, -, hsum⟩ := haccount
    omega
  · have hcount := hslots.openCount_of_quiet horder hquiet
    rw [hbounded hbound, Option.map_some, Option.getD_some] at hcount
    omega
  · have hcount := hslots.openCount_of_quiet horder hquiet
    have hunbounded : (new bound).slots = none := if_neg (Int.not_lt.mpr hbound)
    rw [hunbounded, Option.map_none, Option.getD_none] at hcount
    rw [hopen, hcount]
  · have hline := (play_advances setup (new_inOrder bound) (new_allotted bound) (new_inLine bound)
      horderly).line
    exact ⟨w.line, hline.symm⟩

/-! ## A slot and two documents -/

/-- Two documents are added.  The first is changed while its compilation is open,
and then the compilation fails. -/
def contended : List Action :=
  [.start sampleTree .never (Path.ofText "/w"), .event sampleTree added "a.gpt",
    .event sampleTree added "b.gpt", .job sampleTree 0, .job sampleTree 0,
    .event sampleTree changed "a.gpt", .finish sampleDocument (.raised .embeddedNul),
    .job sampleTree 0, .job sampleTree 0, .job sampleTree 0, .job sampleTree 0]

/-- With one slot the second document is compiled and the first waits for its
follow-up; without a bound both are compiled. -/
theorem follow_up_waits_its_turn :
    (0 : Int) < 1 ∧ (play sampleSetup (new 1) contended).1.ready = [] ∧
      Orderly sampleSetup (new 1) contended ∧
      (openCalls (play sampleSetup (new 1) contended).2).length ≤ (1 : Int) ∧
      (openCalls (play sampleSetup (new 1) contended).2).length = min (1 : Int) 2 ∧
      calls (play sampleSetup (new 1) contended).2 <+:
        dispatches (play sampleSetup (new 1) contended).2 ∧
      (play sampleSetup (new 0) contended).1.ready = [] ∧
      (openCalls (play sampleSetup (new 0) contended).2).length = 2 := by
  have horderly : Orderly sampleSetup (new 1) contended :=
    orderly_of_first (by simp [contended])
  have hquiet : (play sampleSetup (new 1) contended).1.ready = [] := by decide +kernel
  have hflight : (play sampleSetup (new 1) contended).1.inFlight.length = 2 := by decide +kernel
  have hquiet' : (play sampleSetup (new 0) contended).1.ready = [] := by decide +kernel
  have hflight' : (play sampleSetup (new 0) contended).1.inFlight.length = 2 := by decide +kernel
  obtain ⟨hbound, hfull, -, horder⟩ := calls_fill_slots_in_order sampleSetup 1 contended
  obtain ⟨-, -, hall, -⟩ := calls_fill_slots_in_order sampleSetup 0 contended
  have hone := hfull (by decide) hquiet
  have htwo := hall (by decide) hquiet'
  rw [hflight] at hone
  rw [hflight'] at htwo
  exact ⟨by decide, hquiet, horderly, hbound (by decide), hone, horder horderly, hquiet', htwo⟩

end ProseCompiler.Watcher
