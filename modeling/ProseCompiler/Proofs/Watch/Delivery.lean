import ProseCompiler.Proofs.Watch.Exclusion

/-!
# No event is lost

Once an event is accepted, its document is due: a follow-up is noted for it, or
a run of it has not begun its compilation.  A document stays due until a
compilation of it begins, and that compilation stays open until it has ended.
So when no run of the document is registered any more, a compilation of it began
after the event and has ended.

`Ledger.Due` is the debt, `Moves.due` is what becomes of it, and
`accepted_event_is_compiled` is the result.
-/

namespace ProseCompiler.Watcher

/-- An event is reported as accepted if the watcher is watching, the event adds
or changes a path with the extension of documents, and the path can be resolved;
and in no other case. -/
theorem accepted_mem_event_iff {setup : Setup} {tree : Tree} {w : Watcher} {kind path : Text}
    {document : Location} {standing : Standing} :
    .accepted document standing ∈ (perform setup tree w (.event kind path)).2 ↔
      w.accepts setup kind path = true ∧
        documentAt tree (w.root.getD []) path = .ok document ∧ w.standing document = standing := by
  by_cases haccepts : w.accepts setup kind path = true
  · cases hdocument : documentAt tree (w.root.getD []) path with
    | error fault => simp [perform, handleEvent, haccepts, hdocument]
    | ok other =>
      have hreports : .accepted document standing ∉ (w.dispatch other).1.2 := by
        unfold dispatch
        split <;> simp [coalesced, entry]
      simp only [perform, handleEvent, haccepts, hdocument, if_true, true_and, Except.ok.injEq]
      simp only [List.cons_append, List.nil_append, List.mem_cons, entry, reduceCtorEq, hreports,
        Report.accepted.injEq, false_or, or_false]
      constructor
      · rintro ⟨rfl, rfl⟩
        exact ⟨rfl, rfl⟩
      · rintro ⟨rfl, rfl⟩
        exact ⟨rfl, rfl⟩
  · simp [perform, handleEvent, haccepts]

namespace Ledger

/-- A compilation of a document has still to begin. -/
def Due (l : Ledger) (document : Location) : Prop :=
  document ∈ l.dirty ∨ ∃ run ∈ l.unbegun, run.document = document

variable {l l' : Ledger} {reports : List Report} {run : Run} {document : Location}

/-- An open compilation stays open until its end is reported. -/
theorem Move.opened (hmove : Move l reports l') (hrun : run ∈ l.opened) :
    run ∈ l'.opened ∨ ∃ outcome, .ended run outcome ∈ reports := by
  cases hmove with
  | aside | merge | mark | dispatch | close | renew => exact .inl hrun
  | call => exact .inl (Multiset.mem_cons_of_mem hrun)
  | @finish other outcome =>
    by_cases hsame : run = other
    · exact .inr ⟨outcome, by simp [hsame]⟩
    · exact .inl ((Multiset.mem_erase_of_ne hsame).mpr hrun)

theorem Moves.opened (hmoves : Moves l reports l') (hrun : run ∈ l.opened) :
    run ∈ l'.opened ∨ ∃ outcome, .ended run outcome ∈ reports := by
  induction hmoves with
  | refl => exact .inl hrun
  | step move _ ih =>
    rcases move.opened hrun with hopen | ⟨outcome, hended⟩
    · rcases ih hopen with hopen | ⟨outcome, hended⟩
      · exact .inl hopen
      · exact .inr ⟨outcome, List.mem_append_right _ hended⟩
    · exact .inr ⟨outcome, List.mem_append_left _ hended⟩

/-- An accepted event makes its document due. -/
theorem Move.due_of_accepted {standing : Standing} (hmove : Move l reports l')
    (haccepted : .accepted document standing ∈ reports) : l'.Due document := by
  cases hmove with
  | aside haside =>
    rw [List.mem_singleton] at haccepted
    exact (haccepted ▸ haside : Report.IsAside (.accepted document standing)).elim
  | merge _ hdirty =>
    simp only [List.mem_singleton, Report.accepted.injEq] at haccepted
    exact .inl (haccepted.1 ▸ hdirty)
  | mark =>
    simp only [List.mem_singleton, Report.accepted.injEq] at haccepted
    exact .inl (by simp [haccepted.1])
  | dispatch =>
    simp only [List.mem_cons, Report.accepted.injEq, reduceCtorEq, List.not_mem_nil,
      or_false] at haccepted
    exact .inr ⟨_, Multiset.mem_cons_self _ _, haccepted.1.symm⟩
  | call | finish | close | renew => simp at haccepted

/-- A due document stays due until a compilation of it opens. -/
theorem Move.due (hmove : Move l reports l') (hdue : l.Due document) :
    l'.Due document ∨ ∃ run, run.document = document ∧ .called run ∈ reports ∧
      run ∈ l'.opened := by
  cases hmove with
  | aside | merge | finish => exact .inl hdue
  | mark => exact .inl (hdue.imp_left (List.mem_append_left _))
  | dispatch =>
    refine .inl (hdue.imp_right ?_)
    rintro ⟨run, hrun, hdocument⟩
    exact ⟨run, Multiset.mem_cons_of_mem hrun, hdocument⟩
  | @call other =>
    rcases hdue with hdirty | ⟨run, hrun, hdocument⟩
    · exact .inl (.inl hdirty)
    · by_cases hsame : run = other
      · subst hsame
        exact .inr ⟨run, hdocument, List.mem_cons_self, Multiset.mem_cons_self _ _⟩
      · exact .inl (.inr ⟨run, (Multiset.mem_erase_of_ne hsame).mpr hrun, hdocument⟩)
  | close _ hclean =>
    refine .inl (hdue.imp_left ?_)
    intro hdirty
    exact List.mem_filter.mpr ⟨hdirty, bne_iff_ne.mpr fun heq => hclean (heq ▸ hdirty)⟩
  | @renew other =>
    rcases hdue with hdirty | ⟨run, hrun, hdocument⟩
    · by_cases hsame : document = other.document
      · exact .inl (.inr ⟨_, Multiset.mem_cons_self _ _, hsame.symm⟩)
      · exact .inl (.inl (List.mem_filter.mpr ⟨hdirty, bne_iff_ne.mpr hsame⟩))
    · exact .inl (.inr ⟨run, Multiset.mem_cons_of_mem hrun, hdocument⟩)

/-- A due document stays due until a compilation of it opens, and that one stays
open until its end. -/
theorem Moves.due (hmoves : Moves l reports l') (hdue : l.Due document) :
    l'.Due document ∨ ∃ run, run.document = document ∧
      (run ∈ l'.opened ∨ ∃ outcome, [.called run, .ended run outcome].Sublist reports) := by
  induction hmoves with
  | refl => exact .inl hdue
  | step move moves ih =>
    rcases move.due hdue with hdue | ⟨run, hdocument, hcalled, hopen⟩
    · rcases ih hdue with hdue | ⟨run, hdocument, hopen | ⟨outcome, hsublist⟩⟩
      · exact .inl hdue
      · exact .inr ⟨run, hdocument, .inl hopen⟩
      · exact .inr ⟨run, hdocument, .inr ⟨outcome, hsublist.trans (List.sublist_append_right _ _)⟩⟩
    · rcases moves.opened hopen with hopen | ⟨outcome, hended⟩
      · exact .inr ⟨run, hdocument, .inl hopen⟩
      · have hcall := List.singleton_sublist.mpr hcalled
        have hend := List.singleton_sublist.mpr hended
        exact .inr ⟨run, hdocument, .inr ⟨outcome, hcall.append hend⟩⟩

/-- Behind an accepted event there is a ledger on which its document is due. -/
theorem Moves.accepted {before after : List Report} {standing : Standing}
    (hmoves : Moves l reports l')
    (haccepted : reports = before ++ .accepted document standing :: after) :
    ∃ middle skipped rest, after = skipped ++ rest ∧ middle.Due document ∧
      Moves middle rest l' := by
  induction hmoves generalizing before with
  | refl => simp at haccepted
  | @step l l₁ l' first more move moves ih =>
    rcases List.append_eq_append_iff.mp haccepted with ⟨gap, hbefore, hmore⟩ | ⟨gap, hfirst, hgap⟩
    · exact ih hmore
    · rcases List.cons_eq_append_iff.mp hgap with ⟨rfl, hmore⟩ | ⟨skipped, rfl, hafter⟩
      · exact @ih [] hmore
      · have hmem : .accepted document standing ∈ first := by simp [hfirst]
        exact ⟨l₁, skipped, more, hafter, move.due_of_accepted hmem, moves⟩

end Ledger

/-- After every history, if no run of a document is registered, then behind each
accepted event for it a compilation of the document began and has ended. -/
theorem accepted_event_is_compiled (setup : Setup) (bound : Int) (actions : List Action)
    {before after : List Report} {document : Location} {standing : Standing}
    (haccepted : (play setup (new bound) actions).2 =
      before ++ .accepted document standing :: after)
    (hgone : (play setup (new bound) actions).1.isInFlight document = false) :
    ∃ run outcome, run.document = document ∧
      [.called run, .ended run outcome].Sublist after := by
  have hsound := play_sound setup bound actions
  have hmoves := (play_follows setup actions (new_inOrder bound)).moves
  rw [isInFlight_eq_false_iff] at hgone
  have hregister : ∀ run ∈ (play setup (new bound) actions).1.ledger.register,
      run.document ≠ document :=
    fun run hrun hdocument => hgone (List.mem_map.mpr ⟨run, hrun, hdocument⟩)
  obtain ⟨middle, skipped, rest, rfl, hdue, hrest⟩ := hmoves.accepted haccepted
  rcases hrest.due hdue with (hdirty | ⟨run, hrun, hdocument⟩) | ⟨run, hdocument, hrun⟩
  · exact absurd (hsound.dirty document hdirty) hgone
  · exact absurd hdocument (hregister run (hsound.mem_register (.inl hrun)))
  · rcases hrun with hopen | ⟨outcome, hsublist⟩
    · exact absurd hdocument (hregister run (hsound.mem_register (.inr (.inl hopen))))
    · exact ⟨run, outcome, hdocument, hsublist.trans (List.sublist_append_right _ _)⟩

/-! ## A change while the document is compiled -/

/-- The event that a report says was accepted. -/
def Report.accepted? : Report → Option (Location × Standing)
  | .accepted document standing => some (document, standing)
  | _ => none

theorem eq_append_of_accepted? {reports : List Report} {index : Nat} {document : Location}
    {standing : Standing}
    (h : reports[index]?.bind Report.accepted? = some (document, standing)) :
    reports = reports.take index ++ .accepted document standing :: reports.drop (index + 1) := by
  obtain ⟨report, hreport, haccepted⟩ := Option.bind_eq_some_iff.mp h
  obtain ⟨hindex, rfl⟩ := List.getElem?_eq_some_iff.mp hreport
  cases hat : reports[index] <;> rw [hat] at haccepted <;> cases haccepted
  rw [← hat]
  simp

def sampleDocument : Location := ["w", "a.gpt"]

def sampleTree : Tree where
  entries := [(["w"], .directory), (sampleDocument, .file [])]
  workingDirectory := []

def sampleSetup : Setup where
  extension := ".gpt"
  scansFirst := false
  display := none

/-- A document is changed, and changed again while its compilation is open.  The
watcher is stopped, the compilation fails, and then the follow-up runs. -/
def changedTwice : List Action :=
  [.start sampleTree .never (Path.ofText "/w"), .event sampleTree added "a.gpt",
    .job sampleTree 0, .event sampleTree changed "a.gpt", .stop,
    .finish sampleDocument (.raised .embeddedNul), .job sampleTree 0, .job sampleTree 0,
    .job sampleTree 0, .finish sampleDocument (.returned (.succeeded "/w/a.js" "javascript")),
    .job sampleTree 0, .job sampleTree 0]

/-- The second change finds the document in flight, and is compiled after all. -/
theorem second_change_is_compiled :
    (play sampleSetup (new 1) changedTwice).2[8]?.bind Report.accepted? =
        some (sampleDocument, .inFlight) ∧
      (play sampleSetup (new 1) changedTwice).1.isInFlight sampleDocument = false ∧
      ∃ run outcome, run.document = sampleDocument ∧
        [.called run, .ended run outcome].Sublist
          ((play sampleSetup (new 1) changedTwice).2.drop 9) := by
  have haccepted : (play sampleSetup (new 1) changedTwice).2[8]?.bind Report.accepted? =
      some (sampleDocument, .inFlight) := by decide +kernel
  have hgone : (play sampleSetup (new 1) changedTwice).1.isInFlight sampleDocument = false := by
    decide +kernel
  exact ⟨haccepted, hgone, accepted_event_is_compiled sampleSetup 1 changedTwice
    (eq_append_of_accepted? haccepted) hgone⟩

end ProseCompiler.Watcher
