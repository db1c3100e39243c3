import ProseCompiler.Proofs.Watch.Delivery
import ProseCompiler.Proofs.Watch.Intake

/-!
# Every compilation answers one event

An accepted event costs one compilation if it finds its document free or in
flight, and none if it finds it dirty.  A compilation that has still to begin is
owed for a run that has not begun and for a dirty document.

`Move.balance` says of one move that what was owed and what its events cost is
what begins and what is owed then, and `Moves.balance` says it of a whole history.
Nothing is owed for a document that is not in flight, so its compilations are as
many as its events cost: `calls_match_events`.
-/

namespace ProseCompiler.Watcher

/-- How many compilations of a document have begun. -/
def callCount (trace : List Report) (document : Location) : Nat :=
  ((calls trace).map Run.document).count document

/-- How many events for a document were accepted that found it standing in a
given way. -/
def acceptanceCount (trace : List Report) (document : Location) (standing : Standing) : Nat :=
  (trace.filterMap Report.accepted?).count (document, standing)

/-- How many compilations the accepted events of a document cost. -/
def cost (trace : List Report) (document : Location) : Nat :=
  acceptanceCount trace document .free + acceptanceCount trace document .inFlight

@[simp] theorem callCount_nil (document : Location) : callCount [] document = 0 := rfl

@[simp] theorem cost_nil (document : Location) : cost [] document = 0 := rfl

@[simp] theorem callCount_cons (report : Report) (rest : List Report) (document : Location) :
    callCount (report :: rest) document =
      callCount rest document +
        if report.called?.map Run.document = some document then 1 else 0 := by
  cases h : report.called? with
  | none => simp [callCount, calls, h]
  | some run => simp [callCount, calls, h, List.count_cons]

@[simp] theorem cost_cons (report : Report) (rest : List Report) (document : Location) :
    cost (report :: rest) document = cost rest document +
      ((if report.accepted? = some (document, .free) then 1 else 0) +
        if report.accepted? = some (document, .inFlight) then 1 else 0) := by
  cases h : report.accepted? with
  | none => simp [cost, acceptanceCount, h]
  | some event =>
    simp only [cost, acceptanceCount, List.filterMap_cons, h, List.count_cons, beq_iff_eq,
      Option.some.injEq]
    omega

theorem callCount_append (first second : List Report) (document : Location) :
    callCount (first ++ second) document =
      callCount first document + callCount second document := by
  simp [callCount, calls_append]

theorem cost_append (first second : List Report) (document : Location) :
    cost (first ++ second) document = cost first document + cost second document := by
  simp only [cost, acceptanceCount, List.filterMap_append, List.count_append]
  omega

namespace Ledger

/-- How many compilations of a document have still to begin. -/
def owed (l : Ledger) (document : Location) : Nat :=
  (l.unbegun.map Run.document).count document + if document ∈ l.dirty then 1 else 0

variable {l l' : Ledger} {reports : List Report} {run : Run} {document : Location}

theorem owed_begin (hrun : run ∈ l.unbegun) (document : Location) :
    l.owed document = (l.begin run).owed document + if document = run.document then 1 else 0 := by
  have hcount : (l.unbegun.map Run.document).count document =
      ((l.begin run).unbegun.map Run.document).count document +
        if document = run.document then 1 else 0 := by
    conv_lhs => rw [← Multiset.cons_erase hrun, Multiset.map_cons, Multiset.count_cons]
    rfl
  have hdirty : (l.begin run).dirty = l.dirty := rfl
  rw [owed, owed, hcount, hdirty]
  omega

theorem owed_enroll (l : Ledger) (fresh document : Location) :
    (l.enroll fresh).owed document = l.owed document + if document = fresh then 1 else 0 := by
  have hdirty : (l.enroll fresh).dirty = l.dirty := rfl
  rw [owed, owed, hdirty, enroll, Multiset.map_cons, Multiset.count_cons]
  exact Nat.add_right_comm _ _ _

/-- A run that ends takes away what was owed for its dirty document. -/
theorem owed_retire (l : Ledger) (run : Run) (document : Location) :
    l.owed document =
      (l.retire run).owed document +
        if document = run.document ∧ run.document ∈ l.dirty then 1 else 0 := by
  have hunbegun : (l.retire run).unbegun = l.unbegun := rfl
  have hmem : document ∈ (l.retire run).dirty ↔ document ∈ l.dirty ∧ document ≠ run.document := by
    simp only [retire, List.mem_filter, bne_iff_ne]
  rw [owed, owed, hunbegun]
  by_cases hsame : document = run.document
  · subst hsame
    simp [hmem]
  · simp [hmem, hsame]

/-- What was owed and what new events cost is what begins and what is owed then. -/
theorem Move.balance (hmove : Move l reports l') (document : Location) :
    l.owed document + cost reports document = callCount reports document + l'.owed document := by
  cases hmove with
  | @aside report haside =>
    have haccepted : report.accepted? = none := by
      cases report with
      | entry | shown | observer => rfl
      | accepted | dispatched | called | ended | closed => exact haside.elim
    simp [haccepted, haside.tells_nothing.2.1]
  | merge => simp [Report.accepted?, Report.called?]
  | @mark marked hflight hclean =>
    by_cases hsame : document = marked
    · subst hsame
      simp [Report.accepted?, Report.called?, owed, hclean]
    · simp [Report.accepted?, Report.called?, owed, hsame, Ne.symm hsame]
  | @dispatch fresh hfree =>
    rw [owed_enroll]
    simp [Report.accepted?, Report.called?, eq_comm]
  | @call run hrun =>
    rw [owed_begin hrun]
    simp [Report.accepted?, Report.called?, eq_comm, Nat.add_comm]
  | @finish run _ hrun =>
    have howed : (l.finish run).owed document = l.owed document := rfl
    simp [Report.accepted?, Report.called?, howed]
  | @close run hrun hclean =>
    rw [owed_retire l run]
    simp [Report.accepted?, Report.called?, hclean]
  | @renew run hrun hdirty =>
    -- The follow-up is owed for the dirty document before, and for its run after.
    rw [owed_enroll, owed_retire l run]
    simp [Report.accepted?, Report.called?, hdirty]

/-- A history keeps the balance. -/
theorem Moves.balance (hmoves : Moves l reports l') (document : Location) :
    l.owed document + cost reports document = callCount reports document + l'.owed document := by
  induction hmoves with
  | refl => simp
  | step move _ ih =>
    have hfirst := move.balance document
    rw [cost_append, callCount_append]
    omega

/-- Nothing is owed for a document that is not in flight. -/
theorem Sound.owed_eq_zero (hl : l.Sound) (hgone : ¬l.InFlight document) :
    l.owed document = 0 := by
  have hunbegun : document ∉ l.unbegun.map Run.document := by
    intro hmem
    obtain ⟨run, hrun, rfl⟩ := Multiset.mem_map.mp hmem
    exact hgone (List.mem_map.mpr ⟨run, hl.mem_register (.inl hrun), rfl⟩)
  have hdirty : document ∉ l.dirty := fun hmem => hgone (hl.dirty document hmem)
  rw [owed, Multiset.count_eq_zero_of_notMem hunbegun, if_neg hdirty]

end Ledger

/-! ## Events for dirty documents -/

variable {setup : Setup} {w : Watcher} {document : Location}

/-- An event that is accepted for a document. -/
def Action.AcceptedFor (setup : Setup) (w : Watcher) (document : Location)
    (action : Action) : Prop :=
  ∃ tree kind path, action = .event tree kind path ∧ w.accepts setup kind path = true ∧
    documentAt tree (w.root.getD []) path = .ok document

theorem standing_eq_dirty_iff :
    w.standing document = .dirty ↔
      w.isInFlight document = true ∧ w.dirty.contains document = true := by
  rw [standing]
  cases w.isInFlight document <;> cases w.dirty.contains document <;> simp

/-- An event changes nothing if it finds its document dirty, and begins no
compilation. -/
theorem act_of_dirty {action : Action} (hdirty : w.standing document = .dirty)
    (haccepted : action.AcceptedFor setup w document) :
    (w.act setup action).1 = w ∧ calls (w.act setup action).2 = [] := by
  obtain ⟨tree, kind, path, rfl, haccepts, hdocument⟩ := haccepted
  obtain ⟨hflight, hcontains⟩ := standing_eq_dirty_iff.mp hdirty
  simp only [act, perform, handleEvent, haccepts, hdocument, if_true, dispatch, hflight, hcontains]
  exact ⟨trivial, rfl⟩

/-- Nor do any number of them. -/
theorem play_of_dirty {actions : List Action} (hdirty : w.standing document = .dirty)
    (haccepted : ∀ action ∈ actions, action.AcceptedFor setup w document) :
    (play setup w actions).1 = w ∧ calls (play setup w actions).2 = [] := by
  induction actions with
  | nil => exact ⟨rfl, rfl⟩
  | cons action rest ih =>
    obtain ⟨hsame, hnone⟩ := act_of_dirty hdirty (haccepted action List.mem_cons_self)
    obtain ⟨hlater, hnoneLater⟩ :=
      ih fun other hmem => haccepted other (List.mem_cons_of_mem _ hmem)
    simp only [play, hsame]
    refine ⟨hlater, ?_⟩
    rw [calls_append, hnone, hnoneLater, List.append_nil]

/-- After every history, a document that is not in flight was compiled once for
each accepted event that found it free and once for each that found it in flight
and not dirty.  At no time was it compiled more often.  However many events are
accepted while it is dirty, they change nothing. -/
theorem calls_match_events (setup : Setup) (bound : Int) (actions : List Action)
    (document : Location) :
    let w := (play setup (new bound) actions).1
    let trace := (play setup (new bound) actions).2
    (w.isInFlight document = false → callCount trace document =
        acceptanceCount trace document .free + acceptanceCount trace document .inFlight) ∧
      callCount trace document ≤
        acceptanceCount trace document .free + acceptanceCount trace document .inFlight ∧
      (w.standing document = .dirty → ∀ events : List Action,
        (∀ event ∈ events, event.AcceptedFor setup w document) →
          (play setup w events).1 = w ∧ calls (play setup w events).2 = []) := by
  intro w trace
  have hsound : w.ledger.Sound := play_sound setup bound actions
  have hmoves := (play_follows setup actions (new_inOrder bound)).moves
  have hbalance : (new bound).ledger.owed document + cost trace document =
      callCount trace document + w.ledger.owed document := hmoves.balance document
  have hnew : (new bound).ledger.owed document = 0 := by simp [Ledger.owed, ledger, new]
  rw [hnew, Nat.zero_add, cost] at hbalance
  refine ⟨fun hgone => ?_, ?_, fun hdirty events => play_of_dirty hdirty⟩
  · have hpaid := hsound.owed_eq_zero (isInFlight_eq_false_iff.mp hgone)
    omega
  · omega

/-! ## Three changes and two compilations -/

/-- A document is added, and changed while its compilation is open. -/
def madeDirty : List Action :=
  [.start sampleTree .never (Path.ofText "/w"), .event sampleTree added "a.gpt",
    .job sampleTree 0, .event sampleTree changed "a.gpt"]

/-- It is changed once more before the compilation fails; then the follow-up runs. -/
def changedWhileDirty : List Action :=
  madeDirty ++ [.event sampleTree changed "a.gpt",
    .finish sampleDocument (.raised .embeddedNul), .job sampleTree 0, .job sampleTree 0,
    .job sampleTree 0, .finish sampleDocument (.returned (.succeeded "/w/a.js" "javascript")),
    .job sampleTree 0, .job sampleTree 0]

theorem three_changes_two_compilations :
    (play sampleSetup (new 1) changedWhileDirty).1.isInFlight sampleDocument = false ∧
      callCount (play sampleSetup (new 1) changedWhileDirty).2 sampleDocument = 1 + 1 ∧
      acceptanceCount (play sampleSetup (new 1) changedWhileDirty).2 sampleDocument .dirty = 1 ∧
      (play sampleSetup (new 1) madeDirty).1.standing sampleDocument = .dirty ∧
      calls (play sampleSetup (play sampleSetup (new 1) madeDirty).1
        [.event sampleTree changed "a.gpt"]).2 = [] := by
  have hgone :
      (play sampleSetup (new 1) changedWhileDirty).1.isInFlight sampleDocument = false := by
    decide +kernel
  have hfree : acceptanceCount (play sampleSetup (new 1) changedWhileDirty).2 sampleDocument .free =
      1 := by decide +kernel
  have hflight : acceptanceCount (play sampleSetup (new 1) changedWhileDirty).2 sampleDocument
      .inFlight = 1 := by decide +kernel
  have hdirty : (play sampleSetup (new 1) madeDirty).1.standing sampleDocument = .dirty := by
    decide +kernel
  have haccepted : Action.AcceptedFor sampleSetup (play sampleSetup (new 1) madeDirty).1
      sampleDocument (.event sampleTree changed "a.gpt") :=
    ⟨sampleTree, changed, "a.gpt", rfl, by decide +kernel, by decide +kernel⟩
  have hcount := (calls_match_events sampleSetup 1 changedWhileDirty sampleDocument).1 hgone
  have hnone := (calls_match_events sampleSetup 1 madeDirty sampleDocument).2.2 hdirty
    [.event sampleTree changed "a.gpt"] (by simpa using haccepted)
  rw [hfree, hflight] at hcount
  exact ⟨hgone, hcount, by decide +kernel, hdirty, hnone.2⟩

end ProseCompiler.Watcher
