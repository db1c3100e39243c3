import Mathlib.Data.Multiset.Filter
import Mathlib.Data.Multiset.UnionInter
import ProseCompiler.Proofs.Watch.History

/-!
# The ledger of a watcher

The ledger says of every registered run how far it has come, and nothing of the
queues and slots that decide when it goes on.  `Ledger.Move` lists everything
that can happen to a ledger, with the reports that tell of it; `Ledger.Moves`
is a sequence of moves.  What a watcher does is a sequence of moves, so what
every move keeps is kept by every history.

There are two groups of results.

* `Ledger.Sound` says that the stages hold exactly the registered runs, that no
  document is registered twice, and that only registered documents are dirty.
  `Moves.sound` is its preservation.
* `Ledger.Accounts` says what a trace tells of the ledger it leads to: which
  runs are registered, which compilations are open, and that no run begins
  twice.  `Moves.accounts` is its preservation.
-/

namespace ProseCompiler.Watcher

/-- What a watcher has on its books.  A registered run has not begun its
compilation, or has it open, or has ended it and not been closed. -/
@[ext] structure Ledger where
  nextId : Nat
  register : List Run
  dirty : List Location
  unbegun : Multiset Run
  opened : Multiset Run
  ended : Multiset Run

namespace Ledger

/-- Whether a run of a document is registered. -/
def InFlight (l : Ledger) (document : Location) : Prop :=
  document ∈ l.register.map Run.document

/-! ## Entries on the books -/

/-- A new run of a document is registered. -/
def enroll (l : Ledger) (document : Location) : Ledger :=
  { l with
    nextId := l.nextId + 1
    register := l.register ++ [⟨l.nextId, document⟩]
    unbegun := ⟨l.nextId, document⟩ ::ₘ l.unbegun }

/-- The compilation of a run begins. -/
def begin (l : Ledger) (run : Run) : Ledger :=
  { l with unbegun := l.unbegun.erase run, opened := run ::ₘ l.opened }

/-- The compilation of a run has ended. -/
def finish (l : Ledger) (run : Run) : Ledger :=
  { l with opened := l.opened.erase run, ended := run ::ₘ l.ended }

/-- A run leaves the register, and its document is dirty no longer. -/
def retire (l : Ledger) (run : Run) : Ledger :=
  { l with
    ended := l.ended.erase run
    register := l.register.filter fun other => other.document != run.document
    dirty := l.dirty.filter (· != run.document) }

/-! ## Moves -/

/-- What can happen to a ledger, and the reports that tell of it.  An accepted
event dispatches a run if its document is free, makes it dirty if it is in
flight, and changes nothing if it is dirty already. -/
inductive Move : Ledger → List Report → Ledger → Prop where
  | aside {l report} (haside : Report.IsAside report) : Move l [report] l
  | merge {l document} (hflight : l.InFlight document) (hdirty : document ∈ l.dirty) :
      Move l [.accepted document .dirty] l
  | mark {l document} (hflight : l.InFlight document) (hclean : document ∉ l.dirty) :
      Move l [.accepted document .inFlight] { l with dirty := l.dirty ++ [document] }
  | dispatch {l document} (hfree : ¬l.InFlight document) :
      Move l [.accepted document .free, .dispatched ⟨l.nextId, document⟩] (l.enroll document)
  | call {l run} (hrun : run ∈ l.unbegun) : Move l [.called run] (l.begin run)
  | finish {l run outcome} (hrun : run ∈ l.opened) :
      Move l [.ended run outcome] (l.finish run)
  | close {l run} (hrun : run ∈ l.ended) (hclean : run.document ∉ l.dirty) :
      Move l [.closed run] (l.retire run)
  | renew {l run} (hrun : run ∈ l.ended) (hdirty : run.document ∈ l.dirty) :
      Move l [.closed run, .dispatched ⟨l.nextId, run.document⟩]
        ((l.retire run).enroll run.document)

/-- Moves one after the other, with everything they report. -/
inductive Moves : Ledger → List Report → Ledger → Prop where
  | refl {l} : Moves l [] l
  | step {l l' l'' reports more} (move : Move l reports l') (moves : Moves l' more l'') :
      Moves l (reports ++ more) l''

theorem Move.moves {l l' : Ledger} {reports : List Report} (hmove : Move l reports l') :
    Moves l reports l' := by
  simpa using Moves.step hmove .refl

theorem Moves.trans {l l' l'' : Ledger} {reports more : List Report}
    (hfirst : Moves l reports l') (hsecond : Moves l' more l'') :
    Moves l (reports ++ more) l'' := by
  induction hfirst with
  | refl => simpa using hsecond
  | step move _ ih =>
    rw [List.append_assoc]
    exact .step move (ih hsecond)

/-- Reports that tell nothing go with any ledger. -/
theorem Moves.asides {l : Ledger} {reports : List Report}
    (h : ∀ report ∈ reports, report.IsAside) : Moves l reports l := by
  induction reports with
  | nil => exact .refl
  | cons report rest ih =>
    have hrest : Moves l rest l := ih fun other hmem => h other (List.mem_cons_of_mem _ hmem)
    exact .step (.aside (h report List.mem_cons_self)) hrest

/-! ## Soundness -/

/-- A list stays without duplicates if something new comes to its end. -/
theorem nodup_concat {α : Type} {xs : List α} {x : α} (hxs : xs.Nodup) (hx : x ∉ xs) :
    (xs ++ [x]).Nodup := by
  rw [← List.concat_eq_append]
  exact hxs.concat hx

/-- A ledger without contradictions. -/
structure Sound (l : Ledger) : Prop where
  stages : l.unbegun + l.opened + l.ended = ↑l.register
  documents : (l.register.map Run.document).Nodup
  dirty : ∀ document ∈ l.dirty, l.InFlight document

namespace Sound

variable {l : Ledger} {run : Run}

/-- Every run at some stage is registered. -/
theorem mem_register (hl : l.Sound)
    (hrun : run ∈ l.unbegun ∨ run ∈ l.opened ∨ run ∈ l.ended) : run ∈ l.register := by
  have hmem : run ∈ l.unbegun + l.opened + l.ended := by
    simpa only [Multiset.mem_add, or_assoc] using hrun
  rw [hl.stages] at hmem
  exact Multiset.mem_coe.mp hmem

/-- No run is registered twice. -/
theorem nodup_register (hl : l.Sound) : l.register.Nodup := hl.documents.of_map _

/-- No run is at two stages, or twice at one. -/
theorem nodup_stages (hl : l.Sound) : (l.unbegun + l.opened + l.ended).Nodup := by
  rw [hl.stages]
  exact Multiset.coe_nodup.mpr hl.nodup_register

theorem nodup_unbegun (hl : l.Sound) : l.unbegun.Nodup :=
  (Multiset.nodup_add.mp (Multiset.nodup_add.mp hl.nodup_stages).1).1

theorem nodup_opened (hl : l.Sound) : l.opened.Nodup :=
  (Multiset.nodup_add.mp (Multiset.nodup_add.mp hl.nodup_stages).1).2.1

/-- Two registered runs of one document are the same run. -/
theorem eq_of_document (hl : l.Sound) {other : Run} (hrun : run ∈ l.register)
    (hother : other ∈ l.register) (hdocument : run.document = other.document) : run = other :=
  List.inj_on_of_nodup_map hl.documents hrun hother hdocument

/-- The register is a run of it and the runs of other documents. -/
theorem register_eq_cons (hl : l.Sound) (hrun : run ∈ l.register) :
    (l.register : Multiset Run) =
      run ::ₘ ↑(l.register.filter fun other => other.document != run.document) := by
  have hfilter : l.register.filter (fun other => other.document != run.document) =
      l.register.filter (· != run) := by
    apply List.filter_congr
    intro other hother
    have hiff : other.document = run.document ↔ other = run :=
      ⟨hl.eq_of_document hother hrun, congrArg Run.document⟩
    rw [Bool.eq_iff_iff]
    simpa using not_congr hiff
  rw [hfilter, ← hl.nodup_register.erase_eq_filter, ← Multiset.coe_erase,
    Multiset.cons_erase (Multiset.mem_coe.mpr hrun)]

theorem begin (hl : l.Sound) (hrun : run ∈ l.unbegun) : (l.begin run).Sound where
  stages := calc
    l.unbegun.erase run + run ::ₘ l.opened + l.ended
        = run ::ₘ l.unbegun.erase run + l.opened + l.ended := by
      simp only [Multiset.add_cons, Multiset.cons_add]
    _ = ↑l.register := by rw [Multiset.cons_erase hrun, hl.stages]
  documents := hl.documents
  dirty := hl.dirty

theorem finish (hl : l.Sound) (hrun : run ∈ l.opened) : (l.finish run).Sound where
  stages := calc
    l.unbegun + l.opened.erase run + run ::ₘ l.ended
        = l.unbegun + run ::ₘ l.opened.erase run + l.ended := by
      simp only [Multiset.add_cons, Multiset.cons_add]
    _ = ↑l.register := by rw [Multiset.cons_erase hrun, hl.stages]
  documents := hl.documents
  dirty := hl.dirty

/-- Whether a document is in flight once a run has left the register. -/
theorem inFlight_retire (document : Location) :
    (l.retire run).InFlight document ↔ l.InFlight document ∧ document ≠ run.document := by
  simp only [InFlight, Ledger.retire, List.mem_map, List.mem_filter, bne_iff_ne]
  constructor
  · rintro ⟨other, ⟨hmem, hne⟩, rfl⟩
    exact ⟨⟨other, hmem, rfl⟩, hne⟩
  · rintro ⟨⟨other, hmem, rfl⟩, hne⟩
    exact ⟨other, ⟨hmem, hne⟩, rfl⟩

theorem retire (hl : l.Sound) (hrun : run ∈ l.ended) : (l.retire run).Sound where
  stages := by
    have hcons := hl.register_eq_cons (hl.mem_register (.inr (.inr hrun)))
    rw [← hl.stages, ← Multiset.cons_erase hrun, Multiset.add_cons] at hcons
    exact (Multiset.cons_inj_right run).mp hcons
  documents := hl.documents.sublist (List.filter_sublist.map Run.document)
  dirty := by
    intro document hmem
    rw [inFlight_retire]
    simp only [Ledger.retire, List.mem_filter, bne_iff_ne] at hmem
    exact ⟨hl.dirty document hmem.1, hmem.2⟩

theorem enroll {document : Location} (hl : l.Sound) (hfree : ¬l.InFlight document) :
    (l.enroll document).Sound where
  stages := calc
    ⟨l.nextId, document⟩ ::ₘ l.unbegun + l.opened + l.ended
        = ⟨l.nextId, document⟩ ::ₘ ↑l.register := by
      simp only [Multiset.cons_add, hl.stages]
    _ = ↑(l.enroll document).register := by
      rw [Multiset.cons_coe]
      exact Multiset.coe_eq_coe.mpr (List.perm_append_singleton _ l.register).symm
  documents := by
    rw [Ledger.enroll, List.map_append]
    exact nodup_concat hl.documents hfree
  dirty := by
    intro other hother
    simp only [Ledger.enroll, InFlight, List.map_append, List.mem_append]
    exact .inl (hl.dirty other hother)

end Sound

theorem Move.sound {l l' : Ledger} {reports : List Report} (hmove : Move l reports l')
    (hl : l.Sound) : l'.Sound := by
  cases hmove with
  | aside => exact hl
  | merge => exact hl
  | mark hflight =>
    refine ⟨hl.stages, hl.documents, ?_⟩
    intro document hmem
    rcases List.mem_append.mp hmem with hold | hnew
    · exact hl.dirty document hold
    · rw [List.mem_singleton.mp hnew]
      exact hflight
  | dispatch hfree => exact hl.enroll hfree
  | call hrun => exact hl.begin hrun
  | finish hrun => exact hl.finish hrun
  | close hrun => exact hl.retire hrun
  | renew hrun =>
    refine (hl.retire hrun).enroll ?_
    rw [Sound.inFlight_retire]
    exact fun h => h.2 rfl

theorem Moves.sound {l l' : Ledger} {reports : List Report} (hmoves : Moves l reports l')
    (hl : l.Sound) : l'.Sound := by
  induction hmoves with
  | refl => exact hl
  | step move _ ih => exact ih (move.sound hl)

/-! ## What a trace tells of a ledger -/

/-- A trace tells of the ledger that it leads to: the registered runs are those
that were dispatched and not closed, the open compilations are those that began
and have not ended, and no run was dispatched or began twice. -/
structure Accounts (trace : List Report) (l : Ledger) : Prop where
  nodup_dispatches : (dispatches trace).Nodup
  nodup_calls : (calls trace).Nodup
  numbers : ∀ run ∈ dispatches trace, run.id < l.nextId
  register : ∀ run, run ∈ l.register ↔ run ∈ dispatches trace ∧ run ∉ closings trace
  unbegun : ∀ run ∈ l.unbegun, run ∉ calls trace
  opened : ∀ run, run ∈ l.opened ↔ run ∈ calls trace ∧ run ∉ endings trace
  calls_subset : ∀ run ∈ calls trace, run ∈ dispatches trace
  endings_subset : ∀ run ∈ endings trace, run ∈ calls trace
  closings_subset : ∀ run ∈ closings trace, run ∈ dispatches trace

namespace Accounts

variable {trace : List Report} {l : Ledger} {run : Run}

/-- A report that tells of no run changes nothing. -/
theorem silent {report : Report} (h : Accounts trace l) (hdispatched : report.dispatched? = none)
    (hcalled : report.called? = none) (hended : report.ended? = none)
    (hclosed : report.closed? = none) : Accounts (trace ++ [report]) l := by
  constructor
  all_goals simp only [dispatches_concat, calls_concat, endings_concat, closings_concat,
    hdispatched, hcalled, hended, hclosed, Option.toList_none, List.append_nil]
  · exact h.nodup_dispatches
  · exact h.nodup_calls
  · exact h.numbers
  · exact h.register
  · exact h.unbegun
  · exact h.opened
  · exact h.calls_subset
  · exact h.endings_subset
  · exact h.closings_subset

/-- The next run has not been dispatched. -/
theorem fresh (h : Accounts trace l) (document : Location) :
    ⟨l.nextId, document⟩ ∉ dispatches trace :=
  fun hmem => Nat.lt_irrefl _ (h.numbers _ hmem)

theorem enroll (h : Accounts trace l) (document : Location) :
    Accounts (trace ++ [.dispatched ⟨l.nextId, document⟩]) (l.enroll document) := by
  have hfresh := h.fresh document
  constructor
  all_goals simp only [dispatches_concat, calls_concat, endings_concat, closings_concat,
    Report.dispatched?, Report.called?, Report.ended?, Report.closed?, Option.toList,
    List.append_nil, List.mem_append, List.mem_singleton, Ledger.enroll, Multiset.mem_cons]
  · exact nodup_concat h.nodup_dispatches hfresh
  · exact h.nodup_calls
  · rintro run (hrun | rfl)
    · exact Nat.lt_succ_of_lt (h.numbers run hrun)
    · exact Nat.lt_succ_self _
  · intro run
    rw [h.register run]
    constructor
    · rintro (⟨hrun, hopen⟩ | rfl)
      · exact ⟨.inl hrun, hopen⟩
      · exact ⟨.inr rfl, fun hclosed => hfresh (h.closings_subset _ hclosed)⟩
    · rintro ⟨hrun | rfl, hopen⟩
      · exact .inl ⟨hrun, hopen⟩
      · exact .inr rfl
  · rintro run (rfl | hrun)
    · exact fun hcalled => hfresh (h.calls_subset _ hcalled)
    · exact h.unbegun run hrun
  · exact h.opened
  · exact fun run hrun => .inl (h.calls_subset run hrun)
  · exact h.endings_subset
  · exact fun run hrun => .inl (h.closings_subset run hrun)

theorem begin (h : Accounts trace l) (hl : l.Sound) (hrun : run ∈ l.unbegun) :
    Accounts (trace ++ [.called run]) (l.begin run) := by
  have hnew : run ∉ calls trace := h.unbegun run hrun
  constructor
  all_goals simp only [dispatches_concat, calls_concat, endings_concat, closings_concat,
    Report.dispatched?, Report.called?, Report.ended?, Report.closed?, Option.toList,
    List.append_nil, List.mem_append, List.mem_singleton, Ledger.begin, Multiset.mem_cons]
  · exact h.nodup_dispatches
  · exact nodup_concat h.nodup_calls hnew
  · exact h.numbers
  · exact h.register
  · intro other hother
    rw [hl.nodup_unbegun.mem_erase_iff] at hother
    rintro (hcalled | rfl)
    · exact h.unbegun other hother.2 hcalled
    · exact hother.1 rfl
  · intro other
    rw [h.opened other]
    constructor
    · rintro (rfl | ⟨hcalled, hopen⟩)
      · exact ⟨.inr rfl, fun hended => hnew (h.endings_subset _ hended)⟩
      · exact ⟨.inl hcalled, hopen⟩
    · rintro ⟨hcalled | rfl, hopen⟩
      · exact .inr ⟨hcalled, hopen⟩
      · exact .inl rfl
  · rintro other (hother | rfl)
    · exact h.calls_subset other hother
    · exact ((h.register other).mp (hl.mem_register (.inl hrun))).1
  · exact fun other hother => .inl (h.endings_subset other hother)
  · exact h.closings_subset

theorem finish {outcome : Option Outcome} (h : Accounts trace l) (hl : l.Sound)
    (hrun : run ∈ l.opened) : Accounts (trace ++ [.ended run outcome]) (l.finish run) := by
  constructor
  all_goals simp only [dispatches_concat, calls_concat, endings_concat, closings_concat,
    Report.dispatched?, Report.called?, Report.ended?, Report.closed?, Option.toList,
    List.append_nil, List.mem_append, List.mem_singleton, Ledger.finish, not_or]
  · exact h.nodup_dispatches
  · exact h.nodup_calls
  · exact h.numbers
  · exact h.register
  · exact h.unbegun
  · intro other
    rw [hl.nodup_opened.mem_erase_iff, h.opened other]
    exact ⟨fun ⟨hne, hcalled, hopen⟩ => ⟨hcalled, hopen, hne⟩,
      fun ⟨hcalled, hopen, hne⟩ => ⟨hne, hcalled, hopen⟩⟩
  · exact h.calls_subset
  · rintro other (hother | rfl)
    · exact h.endings_subset other hother
    · exact ((h.opened other).mp hrun).1
  · exact h.closings_subset

theorem retire (h : Accounts trace l) (hl : l.Sound) (hrun : run ∈ l.ended) :
    Accounts (trace ++ [.closed run]) (l.retire run) := by
  have hmem : run ∈ l.register := hl.mem_register (.inr (.inr hrun))
  constructor
  all_goals simp only [dispatches_concat, calls_concat, endings_concat, closings_concat,
    Report.dispatched?, Report.called?, Report.ended?, Report.closed?, Option.toList,
    List.append_nil, List.mem_append, List.mem_singleton, Ledger.retire, not_or]
  · exact h.nodup_dispatches
  · exact h.nodup_calls
  · exact h.numbers
  · intro other
    rw [List.mem_filter, bne_iff_ne, h.register other]
    constructor
    · rintro ⟨⟨hdispatched, hopen⟩, hne⟩
      exact ⟨hdispatched, hopen, fun heq => hne (congrArg Run.document heq)⟩
    · rintro ⟨hdispatched, hopen, hne⟩
      have hother := (h.register other).mpr ⟨hdispatched, hopen⟩
      exact ⟨⟨hdispatched, hopen⟩, fun heq => hne (hl.eq_of_document hother hmem heq)⟩
  · exact h.unbegun
  · exact h.opened
  · exact h.calls_subset
  · exact h.endings_subset
  · rintro other (hother | rfl)
    · exact h.closings_subset other hother
    · exact ((h.register other).mp hmem).1

end Accounts

theorem Move.accounts {l l' : Ledger} {reports trace : List Report}
    (hmove : Move l reports l') (hl : l.Sound) (h : Accounts trace l) :
    Accounts (trace ++ reports) l' := by
  cases hmove with
  | aside haside =>
    obtain ⟨hdispatched, hcalled, hended, hclosed⟩ := haside.tells_nothing
    exact h.silent hdispatched hcalled hended hclosed
  | merge => exact h.silent rfl rfl rfl rfl
  | @mark document =>
    have hsame : Accounts (trace ++ [.accepted document .inFlight]) l :=
      h.silent rfl rfl rfl rfl
    exact { hsame with }
  | dispatch hfree =>
    rw [List.append_cons]
    exact (h.silent rfl rfl rfl rfl).enroll _
  | call hrun => exact h.begin hl hrun
  | finish hrun => exact h.finish hl hrun
  | close hrun => exact h.retire hl hrun
  | renew hrun =>
    rw [List.append_cons]
    exact (h.retire hl hrun).enroll _

theorem Moves.accounts {l l' : Ledger} {reports trace : List Report}
    (hmoves : Moves l reports l') (hl : l.Sound) (h : Accounts trace l) :
    Accounts (trace ++ reports) l' := by
  induction hmoves generalizing trace with
  | refl => simpa using h
  | step move _ ih =>
    rw [← List.append_assoc]
    exact ih (move.sound hl) (move.accounts hl h)

end Ledger

end ProseCompiler.Watcher
