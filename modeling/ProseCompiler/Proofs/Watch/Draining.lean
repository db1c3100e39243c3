import Mathlib.Data.List.Induction
import ProseCompiler.Proofs.Watch.Indifference
import ProseCompiler.Proofs.Watch.Slots
import ProseCompiler.Proofs.Watch.Stopping

/-!
# Calls that wait until all is done

A call that drains a watcher looks at the register, waits for all runs there, and looks
again.  `Drains` is how such a call goes along with a history: whatever happens while it
waits, and whenever it goes on once it can.  `drain_eq_play` says that draining is of this
kind.

A call that has returned found the register empty, so nothing is dirty either, every
compilation that began has ended, and every outcome has been shown.  If the watcher had been
stopped before, the call waits at most twice: `Stage` is the invariant of its loop.  At the
first look, every dirty document has its run in the register, and no document becomes dirty
any more.  So once these runs are gone there are no dirty documents, the register holds
follow-ups only, and nothing follows upon them.
-/

namespace ProseCompiler.Watcher

variable {setup : Setup} {w : Watcher} {actions more : List Action} {call : Draining}

/-! ## Calls along histories -/

/-- How a call that drains a watcher goes along with what happens to the watcher from its
beginning on, until it returns. -/
inductive Drains (setup : Setup) (w : Watcher) : List Action → Draining → Prop
  | begin : Drains setup w [] (.begin w)
  | act {actions : List Action} {call : Draining} (action : Action)
      (h : Drains setup w actions call) (hwaits : call.hasReturned = false) :
      Drains setup w (actions ++ [action]) call
  | goOn {actions : List Action} {call : Draining} (h : Drains setup w actions call) :
      Drains setup w actions (call.goOn (play setup w actions).1)

/-- Anything may happen while a call waits. -/
theorem Drains.append (h : Drains setup w actions call) (hwaits : call.hasReturned = false)
    (more : List Action) : Drains setup w (actions ++ more) call := by
  induction more using List.reverseRecOn with
  | nil => rwa [List.append_nil]
  | append_singleton more action ih =>
    rw [← List.append_assoc]
    exact .act action ih hwaits

/-- Letting the open compilations end one after the other while a call waits is a history
that the call goes along with, and in which the first job is always done next. -/
theorem drainWithin_drains (tree : Tree) (ending : Run → Ending) (fuel : Nat)
    (h : Drains setup w actions call) :
    ∃ more call', (∀ tree index, Action.job tree index ∈ more → index = 0) ∧
      Drains setup w (actions ++ more) call' ∧
      drainWithin setup tree ending fuel (play setup w actions).1 call =
        play setup (play setup w actions).1 more := by
  have hstays : Drains setup w (actions ++ []) call := by rwa [List.append_nil]
  induction fuel generalizing actions call with
  | zero => exact ⟨[], call, by simp, hstays, rfl⟩
  | succ fuel ih =>
    cases hreturned : call.hasReturned with
    | true => exact ⟨[], call, by simp, hstays, by simp [drainWithin, hreturned, play]⟩
    | false =>
      cases hrunning : (play setup w actions).1.running with
      | nil => exact ⟨[], call, by simp, hstays, by simp [drainWithin, hrunning, play]⟩
      | cons run rest =>
        cases hfinish : (play setup w actions).1.finish run.document (ending run) with
        | none => exact ⟨[], call, by simp, hstays, by simp [drainWithin, hrunning, hfinish, play]⟩
        | some w' =>
          obtain ⟨jobs, hjobsFirst, hjobs⟩ := settle_eq_play setup tree w'
          let first := .finish run.document (ending run) :: jobs
          have hfirst : play setup (play setup w actions).1 first = play setup w' jobs := by
            simp [first, play, act, hfinish]
          have hstate : (play setup w (actions ++ first)).1 = (play setup w' jobs).1 := by
            rw [play_append, hfirst]
          have hon : Drains setup w (actions ++ first)
              (call.goOn (play setup w (actions ++ first)).1) := .goOn (h.append hreturned first)
          obtain ⟨later, call', hlaterFirst, hlater, hdrain⟩ := ih hon (by rwa [List.append_nil])
          rw [hstate] at hdrain
          refine ⟨first ++ later, call', fun other index hmem => ?_, by rwa [← List.append_assoc], ?_⟩
          · rcases List.mem_append.mp hmem with hmem | hmem
            · exact hjobsFirst other index ((List.mem_cons.mp hmem).resolve_left (by simp))
            · exact hlaterFirst other index hmem
          · rw [play_append, hfirst, ← hdrain]
            simp [drainWithin, hreturned, hrunning, hfinish, hjobs]

/-- Draining is a call that goes along with a history, in which the first job is always done
next. -/
theorem drain_eq_play (setup : Setup) (tree : Tree) (ending : Run → Ending) (w : Watcher) :
    ∃ actions call, (∀ tree index, Action.job tree index ∈ actions → index = 0) ∧
      Drains setup w actions call ∧ w.drain setup tree ending = play setup w actions :=
  drainWithin_drains tree ending _ (Drains.begin : Drains setup w [] (.begin w))

/-! ## Calls that have returned -/

theorem Draining.look_hasReturned (w : Watcher) (waits : Nat) :
    (look w waits).hasReturned = true ↔ w.inFlight = [] := by
  unfold look
  split
  · next h => simp [hasReturned, h]
  · next h => simp [hasReturned, h]

/-- A call that has returned found the register empty. -/
theorem Drains.inFlight_eq_nil (h : Drains setup w actions call)
    (hreturned : call.hasReturned = true) : (play setup w actions).1.inFlight = [] := by
  induction h with
  | begin => exact (Draining.look_hasReturned w 0).mp hreturned
  | act _ _ hwaits => rw [hwaits] at hreturned; cases hreturned
  | @goOn actions call h ih =>
    unfold Draining.goOn at hreturned
    split at hreturned
    · exact (Draining.look_hasReturned _ _).mp hreturned
    · exact ih hreturned

/-- When no run is registered, a call goes on and has returned. -/
theorem Draining.goOn_hasReturned (hgone : w.inFlight = []) (call : Draining) :
    (call.goOn w).hasReturned = true := by
  unfold goOn
  split
  · exact (look_hasReturned w call.waits).mpr hgone
  · next hstays =>
    have hmet : call.isMet w = true := by simp [isMet, hgone]
    simpa [hmet] using hstays

/-! ## When no run is registered -/

section Finished

variable (setup : Setup) (bound : Int) (history : List Action)

/-- When no run is registered, every compilation that began has ended, once. -/
theorem endings_perm_calls (hgone : (play setup (new bound) history).1.inFlight = []) :
    (endings (play setup (new bound) history).2).Perm (calls (play setup (new bound) history).2) := by
  have hsound := play_sound setup bound history
  have haccounts := play_accounts setup bound history
  have hended : (endings (play setup (new bound) history).2).Nodup :=
    (play_follows setup history (new_inOrder bound)).moves.nodup_endings (new_inOrder bound).sound
      (new_accounts bound) List.nodup_nil
  refine (List.perm_ext_iff_of_nodup hended haccounts.nodup_calls).mpr fun run =>
    ⟨haccounts.endings_subset run, fun hcalled => ?_⟩
  by_contra hopen
  have hrun := hsound.mem_register (.inr (.inl ((haccounts.opened run).mpr ⟨hcalled, hopen⟩)))
  exact List.not_mem_nil (hgone ▸ hrun : run ∈ ([] : List Run))

/-- When no run is registered, every outcome that a call returned has been shown, once. -/
theorem shownOutcomes_perm_returns (hgone : (play setup (new bound) history).1.inFlight = [])
    (hdisplay : setup.display.isSome) :
    (shownOutcomes (play setup (new bound) history).2).Perm
      ((returns (new bound) (occasions setup history)).map presented) := by
  have hsound := play_sound setup bound history
  obtain ⟨hdelivered, hshown, -⟩ := playEach_settles (new bound) (occasions setup history)
  have hshown := hshown fun step hstep => by
    obtain ⟨action, -, rfl⟩ := List.mem_map.mp hstep
    exact hdisplay
  have hplay : playEach (new bound) (occasions setup history) = play setup (new bound) history :=
    playEach_map setup (new bound) history
  rw [hplay] at hdelivered hshown
  have hnone : (play setup (new bound) history).1.undelivered = [] := by
    refine List.filterMap_eq_nil_iff.mpr fun job hjob => ?_
    cases job with
    | resume run ending =>
      have hopened : run ∈ (play setup (new bound) history).1.ledger.opened :=
        Multiset.mem_coe.mpr (List.mem_append_left _ (List.mem_filterMap.mpr ⟨_, hjob, rfl⟩))
      have hrun := hsound.mem_register (.inr (.inl hopened))
      exact absurd (hgone ▸ hrun : run ∈ ([] : List Run)) List.not_mem_nil
    | begin | wake | close | event => rfl
  rw [hnone, List.append_nil] at hdelivered
  rw [hshown]
  exact hdelivered.map presented

/-- When no job is ready and no compilation is open, no run is registered. -/
theorem inFlight_eq_nil_of_quiet (hready : (play setup (new bound) history).1.ready = [])
    (hrunning : (play setup (new bound) history).1.running = []) :
    (play setup (new bound) history).1.inFlight = [] := by
  have horder : (play setup (new bound) history).1.InOrder :=
    (play_follows setup history (new_inOrder bound)).inOrder (new_inOrder bound)
  have hallotted := play_allotted setup history (new_inOrder bound) (new_allotted bound)
  have hcount := hallotted.openCount_of_quiet horder hready
  have hopen : (play setup (new bound) history).1.openCount = 0 := by
    simp [openCount, ledger, hready, hrunning]
  rw [hopen] at hcount
  refine List.eq_nil_of_length_eq_zero ?_
  cases hslots : (new bound).slots with
  | none =>
    rw [hslots, Option.map_none, Option.getD_none] at hcount
    exact hcount.symm
  | some n =>
    have hpositive : 0 < n := by
      simp only [new] at hslots
      split at hslots <;> simp at hslots
      omega
    rw [hslots, Option.map_some, Option.getD_some] at hcount
    omega

end Finished

/-! ## Calls on stopped watchers -/

/-- Where a call on a stopped watcher is.  It has returned; or it waits for the first time,
and the run of every dirty document is one that it waits for; or it waits for the second
time, for all that can still be registered. -/
inductive Draining.Stage (call : Draining) (l : Ledger) : Prop
  | returned (hreturned : call.awaited = []) (hwaits : call.waits ≤ 2)
  | first (hwaits : call.waits = 1)
      (hdirty : ∀ document ∈ l.dirty, ∃ run ∈ call.awaited,
        run.document = document ∧ run ∈ l.register)
  | second (hwaits : call.waits = 2) (hdirty : l.dirty = [])
      (hregister : ∀ run ∈ l.register, run ∈ call.awaited)

namespace Ledger

variable {l l' : Ledger} {reports : List Report}

theorem Move.stage (hmove : Move l reports l') (haccepted : acceptances reports = [])
    (h : call.Stage l) : call.Stage l' := by
  cases h with
  | returned hreturned hwaits => exact .returned hreturned hwaits
  | first hwaits hdirty =>
    refine .first hwaits fun document hdocument => ?_
    cases hmove with
    | merge | mark | dispatch => cases haccepted
    | aside | call | finish => exact hdirty document hdocument
    | close =>
      obtain ⟨hdocument, hother⟩ := List.mem_filter.mp hdocument
      obtain ⟨run, hawaited, rfl, hrun⟩ := hdirty document hdocument
      exact ⟨run, hawaited, rfl, List.mem_filter.mpr ⟨hrun, hother⟩⟩
    | renew =>
      obtain ⟨hdocument, hother⟩ := List.mem_filter.mp hdocument
      obtain ⟨run, hawaited, rfl, hrun⟩ := hdirty document hdocument
      exact ⟨run, hawaited, rfl, List.mem_append_left _ (List.mem_filter.mpr ⟨hrun, hother⟩)⟩
  | second hwaits hdirty hregister =>
    cases hmove with
    | merge | mark | dispatch => cases haccepted
    | aside | call | finish => exact .second hwaits hdirty hregister
    | close =>
      refine .second hwaits ?_ fun run hrun => hregister run (List.mem_filter.mp hrun).1
      rw [Ledger.retire, hdirty, List.filter_nil]
    | renew _ hrenew =>
      rw [hdirty] at hrenew
      cases hrenew

theorem Moves.stage (hmoves : Moves l reports l') (haccepted : acceptances reports = [])
    (h : call.Stage l) : call.Stage l' := by
  induction hmoves with
  | refl => exact h
  | step move _ ih =>
    rw [acceptances_append, List.append_eq_nil_iff] at haccepted
    exact ih haccepted.2 (move.stage haccepted.1 h)

end Ledger

/-- A call that looks at the register for the first time. -/
theorem begin_stage (hw : w.ledger.Sound) : (Draining.begin w).Stage w.ledger := by
  unfold Draining.begin Draining.look
  split
  · exact .returned rfl (Nat.zero_le 2)
  · refine .first rfl fun document hdocument => ?_
    obtain ⟨run, hrun, rfl⟩ := List.mem_map.mp (hw.dirty document hdocument)
    exact ⟨run, hrun, rfl, hrun⟩

/-- A call that can go on has no dirty document before it, and after the second time no run
either. -/
theorem Draining.Stage.goOn (h : call.Stage w.ledger) : (call.goOn w).Stage w.ledger := by
  unfold Draining.goOn
  split
  · next hgoes =>
    rw [Bool.and_eq_true] at hgoes
    have hgone : ∀ run ∈ call.awaited, run ∉ w.inFlight := by
      simpa [Draining.isMet] using hgoes.2
    cases h with
    | returned hreturned => simp [Draining.hasReturned, hreturned] at hgoes
    | first hwaits hdirty =>
      have hclean : w.dirty = [] := List.eq_nil_iff_forall_not_mem.mpr fun document hdocument => by
        obtain ⟨run, hawaited, -, hrun⟩ := hdirty document hdocument
        exact hgone run hawaited hrun
      rw [hwaits]
      unfold Draining.look
      split
      · exact .returned rfl (by decide)
      · exact .second rfl hclean fun run hrun => hrun
    | second hwaits hdirty hregister =>
      have hempty : w.inFlight = [] := List.eq_nil_iff_forall_not_mem.mpr fun run hrun =>
        hgone run (hregister run hrun) hrun
      rw [hwaits, Draining.look, if_pos hempty]
      exact .returned rfl (Nat.le_refl 2)
  · exact h

theorem Draining.Stage.waits_le {l : Ledger} (h : call.Stage l) : call.waits ≤ 2 := by
  cases h with
  | returned _ hwaits => exact hwaits
  | first hwaits | second hwaits => omega

/-- A stopped watcher keeps where a call on it is. -/
theorem Drains.stage (hw : w.InOrder) (hstopped : w.phase = .stopped)
    (h : Drains setup w actions call) : call.Stage (play setup w actions).1.ledger := by
  induction h with
  | begin => exact begin_stage hw.sound
  | @act actions call action h hwaits ih =>
    have horder := (play_follows setup actions hw).inOrder hw
    have hinternal : Internal w (play setup w actions) := play_internal_of_stopped actions hstopped
    have hphase := hinternal.phase.trans hstopped
    rw [play_append]
    exact ((play_follows setup [action] horder).moves.stage
      (play_internal_of_stopped [action] hphase).accepted ih)
  | goOn h ih => exact ih.goOn

/-- A watcher that was stopped once is stopped. -/
theorem phase_of_stopped {history : List Action} (hstop : .stop ∈ history) (w : Watcher) :
    (play setup w history).1.phase = .stopped := by
  obtain ⟨before, after, rfl⟩ := List.append_of_mem hstop
  rw [play_append]
  have hphase : ((play setup w before).1.act setup .stop).1.phase = .stopped := stop_phase _
  exact (play_internal_of_stopped after hphase).phase.trans hphase

/-! ## The result -/

/-- However a watcher came to be where a call begins that drains it, and whatever happens
while the call waits: when the call has returned, no run is registered and no document is
dirty, every compilation that ever began has ended, once, and whoever is shown outcomes has
been shown each one that was returned, once.  Once nothing is left to do and no compilation
is open, the call goes on and has returned.  If the watcher had been stopped before, the
call waits at most twice. -/
theorem drain_is_complete (setup : Setup) (bound : Int) (before : List Action)
    {actions : List Action} {call : Draining}
    (hdrains : Drains setup (play setup (new bound) before).1 actions call) :
    let later := (play setup (new bound) (before ++ actions)).1
    let trace := (play setup (new bound) (before ++ actions)).2
    (call.hasReturned = true → later.inFlight = [] ∧ later.dirty = [] ∧
      (endings trace).Perm (calls trace) ∧
      (setup.display.isSome → (shownOutcomes trace).Perm
        ((returns (new bound) (occasions setup (before ++ actions))).map presented))) ∧
    (later.ready = [] → later.running = [] → (call.goOn later).hasReturned = true) ∧
    (.stop ∈ before → call.waits ≤ 2) := by
  intro later trace
  have hlater : later = (play setup (play setup (new bound) before).1 actions).1 := by
    simp only [later, play_append]
  refine ⟨fun hreturned => ?_, fun hready hrunning => ?_, fun hstop => ?_⟩
  · have hgone : later.inFlight = [] := hlater ▸ hdrains.inFlight_eq_nil hreturned
    refine ⟨hgone, ?_, endings_perm_calls setup bound _ hgone,
      shownOutcomes_perm_returns setup bound _ hgone⟩
    refine List.eq_nil_iff_forall_not_mem.mpr fun document hdocument => ?_
    obtain ⟨run, hrun, -⟩ :=
      List.mem_map.mp ((play_sound setup bound (before ++ actions)).dirty document hdocument)
    exact List.not_mem_nil (hgone ▸ hrun : run ∈ ([] : List Run))
  · exact call.goOn_hasReturned (inFlight_eq_nil_of_quiet setup bound _ hready hrunning)
  · have horder := (play_follows setup before (new_inOrder bound)).inOrder (new_inOrder bound)
    exact (hdrains.stage horder (phase_of_stopped hstop (new bound))).waits_le

/-! ## Waiting twice -/

def stoppedWhileBusy : List Action := busy ++ [.stop]

/-- A call on a stopped watcher waits for two runs, and then for the follow-up that one of
them was given. -/
theorem drains_windDown :
    Drains refusingSetup (play refusingSetup (new 1) stoppedWhileBusy).1 windDown ⟨[], 2⟩ := by
  let w := (play refusingSetup (new 1) stoppedWhileBusy).1
  let one := (Draining.begin w).goOn (play refusingSetup w (windDown.take 13)).1
  have hbegin : (Draining.begin w).hasReturned = false := by decide +kernel
  have hone : one.hasReturned = false := by decide +kernel
  have hfirst : Drains refusingSetup w (windDown.take 13) one :=
    .goOn (Drains.begin.append hbegin (windDown.take 13))
  have hsecond := Drains.goOn (hfirst.append hone (windDown.drop 13))
  rw [List.take_append_drop] at hsecond
  have htwo : one.goOn (play refusingSetup w windDown).1 = ⟨[], 2⟩ := by decide +kernel
  rwa [htwo] at hsecond

/-- It has returned then, and all is done: three compilations have ended, and the outcomes of
two of them have been shown. -/
theorem windDown_is_complete :
    let later := (play refusingSetup (new 1) (stoppedWhileBusy ++ windDown)).1
    let trace := (play refusingSetup (new 1) (stoppedWhileBusy ++ windDown)).2
    later.inFlight = [] ∧ later.dirty = [] ∧ (calls trace).length = 3 ∧
      (endings trace).Perm (calls trace) ∧
      (shownOutcomes trace).Perm [(waitingDocument, .succeeded "/w/b.js" "javascript"),
        (sampleDocument, .succeeded "/w/a.js" "javascript")] := by
  obtain ⟨hcomplete, -, -⟩ := drain_is_complete refusingSetup 1 stoppedWhileBusy drains_windDown
  obtain ⟨hgone, hclean, hended, hshown⟩ := hcomplete rfl
  have hreturns : (returns (new 1) (occasions refusingSetup (stoppedWhileBusy ++ windDown))).map
      presented = [(waitingDocument, .succeeded "/w/b.js" "javascript"),
        (sampleDocument, .succeeded "/w/a.js" "javascript")] := by decide +kernel
  have hcalls : (calls (play refusingSetup (new 1) (stoppedWhileBusy ++ windDown)).2).length = 3 := by
    decide +kernel
  exact ⟨hgone, hclean, hcalls, hended, hreturns ▸ hshown rfl⟩

end ProseCompiler.Watcher
