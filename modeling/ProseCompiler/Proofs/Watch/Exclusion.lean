import ProseCompiler.Proofs.Watch.Bookkeeping

/-!
# One run of a document at a time

In every state that a new watcher can come to, at most one compilation of a
document is open.  Every run that was dispatched and has not been closed is the
run that the register has for its document, so closing a run always finds it
there.  Only registered documents are dirty.

`runs_exclusive` says all of this.  It reads which runs are open, and which are
not closed, off the trace, and compares with the register of the watcher.
-/

namespace ProseCompiler.Watcher

/-- The books of a watcher are sound after every history. -/
theorem play_sound (setup : Setup) (bound : Int) (actions : List Action) :
    (play setup (new bound) actions).1.ledger.Sound :=
  ((play_follows setup actions (new_inOrder bound)).inOrder (new_inOrder bound)).sound

/-- The trace of a history tells of the ledger that the history leads to. -/
theorem play_accounts (setup : Setup) (bound : Int) (actions : List Action) :
    Ledger.Accounts (play setup (new bound) actions).2
      (play setup (new bound) actions).1.ledger := by
  have hmoves := (play_follows setup actions (new_inOrder bound)).moves
  simpa using hmoves.accounts (new_inOrder bound).sound (new_accounts bound)

/-- Different registered runs are runs of different documents. -/
theorem Ledger.Sound.nodup_documents {l : Ledger} {runs : List Run} (hl : l.Sound)
    (hnodup : runs.Nodup) (hruns : ∀ run ∈ runs, run ∈ l.register) :
    (runs.map Run.document).Nodup :=
  hnodup.map_on fun run hrun other hother =>
    hl.eq_of_document (hruns run hrun) (hruns other hother)

/-- After every history, at most one compilation of a document is open; every
run that is not closed is the registered run of its document and no other such
run has that document; a run that is about to be closed is registered; and
every dirty document is in flight. -/
theorem runs_exclusive (setup : Setup) (bound : Int) (actions : List Action) :
    let w := (play setup (new bound) actions).1
    let trace := (play setup (new bound) actions).2
    ((openCalls trace).map Run.document).Nodup ∧
      ((unclosed trace).map Run.document).Nodup ∧
      (∀ run ∈ unclosed trace, w.registered? run.document = some run) ∧
      (∀ run, .close run ∈ w.ready → w.registered? run.document = some run) ∧
      ∀ document ∈ w.dirty, w.isInFlight document = true := by
  intro w trace
  have hsound : w.ledger.Sound := play_sound setup bound actions
  have haccounts : Ledger.Accounts trace w.ledger := play_accounts setup bound actions
  have hopen : ∀ run ∈ openCalls trace, run ∈ w.ledger.register := by
    intro run hrun
    simp only [openCalls, List.mem_filter, decide_eq_true_eq] at hrun
    exact hsound.mem_register (.inr (.inl ((haccounts.opened run).mpr hrun)))
  have hunclosed : ∀ run ∈ unclosed trace, run ∈ w.ledger.register := by
    intro run hrun
    simp only [unclosed, List.mem_filter, decide_eq_true_eq] at hrun
    exact (haccounts.register run).mpr hrun
  refine ⟨?_, ?_, ?_, ?_, ?_⟩
  · exact hsound.nodup_documents (haccounts.nodup_calls.filter _) hopen
  · exact hsound.nodup_documents (haccounts.nodup_dispatches.filter _) hunclosed
  · exact fun run hrun => registered?_eq_some hsound (hunclosed run hrun)
  · intro run hrun
    have hended : run ∈ w.ledger.ended :=
      Multiset.mem_coe.mpr (List.mem_filterMap.mpr ⟨_, hrun, rfl⟩)
    exact registered?_eq_some hsound (hsound.mem_register (.inr (.inr hended)))
  · exact fun document hdirty => isInFlight_iff.mpr (hsound.dirty document hdirty)

end ProseCompiler.Watcher
