import ProseCompiler.Proofs.Watch.Exclusion
import ProseCompiler.Proofs.Watch.Intake

/-!
# Slots are neither lost nor idle

A watcher with a bound has that many slots for good.  Each of them is free, set
aside for a woken run, or taken by an open compilation, so there are never more
open compilations than slots.  While a slot is free and runs wait, one of them
has been woken and will wake the next.  So once no job is ready, runs wait only if
all slots are taken.

`Allotted` is the invariant, kept by every action however compilations end
(`act_allotted`).  `Allotted.openCount_of_quiet` reads off it how many
compilations are open when nothing is left to do.
-/

namespace ProseCompiler.Watcher

/-- How many compilations are open. -/
def openCount (w : Watcher) : Nat := w.ledger.opened.card

/-- How many slots are set aside for waiters. -/
def setAside (w : Watcher) : Nat := (w.waiting.filter Waiter.isWoken).length

/-- Every slot is free, set aside or taken, and a free slot is on its way to the
waiters.  Without a bound nobody waits. -/
structure Allotted (bound : Option Nat) (w : Watcher) : Prop where
  account : w.slots.map (fun free => free + w.setAside + w.openCount) = bound
  handedOn : w.slots ≠ some 0 → w.waiting ≠ [] → ∃ waiter ∈ w.waiting, waiter.isWoken = true
  unbounded : w.slots = none → w.waiting = []

variable {bound : Option Nat} {w w' : Watcher} {run : Run}

/-- Only slots, waiters and the number of open compilations matter. -/
theorem Allotted.congr (hw : w.Allotted bound) (hslots : w'.slots = w.slots)
    (hwaiting : w'.waiting = w.waiting) (hopen : w'.openCount = w.openCount) :
    w'.Allotted bound where
  account := by
    rw [setAside, hslots, hwaiting, hopen]
    exact hw.account
  handedOn := by
    rw [hslots, hwaiting]
    exact hw.handedOn
  unbounded := by
    rw [hslots, hwaiting]
    exact hw.unbounded

theorem TakesIn.allotted {effect : Effect} (h : TakesIn w effect) (hw : w.Allotted bound) :
    effect.1.Allotted bound :=
  hw.congr h.slots h.waiting (by simp [openCount, ledger, h.resumes, h.running])

/-! ## Handing slots on -/

/-- No waiter is woken if all of them are already. -/
theorem isWoken_of_wokenFirst_eq_none {waiters : List Waiter} (h : wokenFirst waiters = none) :
    ∀ waiter ∈ waiters, waiter.isWoken = true := by
  induction waiters with
  | nil => simp
  | cons waiter rest ih =>
    rw [wokenFirst] at h
    split at h
    · next hwaiter =>
      rw [Option.map_eq_none_iff] at h
      exact List.forall_mem_cons.mpr ⟨hwaiter, ih h⟩
    · cases h

/-- Waking a waiter sets a free slot aside; what was free stays so only if all
waiters have been woken. -/
theorem wakeNext_allotted {free n : Nat} (hslots : w.slots = some (free + 1))
    (haccount : free + 1 + w.setAside + w.openCount = n) : w.wakeNext.Allotted (some n) := by
  cases hwoken : wokenFirst w.waiting with
  | none =>
    have hsame : w.wakeNext = w := by rw [wakeNext, hwoken]
    rw [hsame]
    refine ⟨by rw [hslots, Option.map_some, haccount], fun _ hne => ?_, by simp [hslots]⟩
    obtain ⟨waiter, hwaiter⟩ := List.exists_mem_of_ne_nil _ hne
    exact ⟨waiter, hwaiter, isWoken_of_wokenFirst_eq_none hwoken waiter hwaiter⟩
  | some found =>
    obtain ⟨waiting, run⟩ := found
    obtain ⟨-, hperm⟩ := wokenFirst_eq_some hwoken
    have hwaiting : w.wakeNext.waiting = waiting := by rw [wakeNext, hwoken]
    have hfree : w.wakeNext.slots = some free := by
      rw [wakeNext, hwoken, hslots]
      rfl
    have haside : w.wakeNext.setAside = w.setAside + 1 := by
      have hlength := hperm.length_eq
      simp only [List.length_map, List.length_cons] at hlength
      rw [setAside, hwaiting, hlength, setAside]
    have hopen : w.wakeNext.openCount = w.openCount := by
      rw [openCount, wakeNext_ledger, openCount]
    refine ⟨?_, fun _ _ => ?_, by simp [hfree]⟩
    · rw [hfree, haside, hopen, Option.map_some, ← haccount]
      congr 1
      omega
    · rw [hwaiting]
      have hmem : run ∈ (waiting.filter Waiter.isWoken).map Waiter.run :=
        hperm.mem_iff.mpr List.mem_cons_self
      obtain ⟨waiter, hwaiter, -⟩ := List.mem_map.mp hmem
      exact ⟨waiter, List.mem_filter.mp hwaiter⟩

/-- A slot that is given back is free or set aside. -/
theorem releaseSlot_allotted
    (haccount : w.slots.map (fun free => free + 1 + w.setAside + w.openCount) = bound)
    (hunbounded : w.slots = none → w.waiting = []) : w.releaseSlot.Allotted bound := by
  unfold releaseSlot
  split
  · next hslots =>
    rw [hslots] at haccount
    have hwaiting := hunbounded hslots
    exact ⟨by rw [hslots]; exact haccount, fun _ hne => absurd hwaiting hne, fun _ => hwaiting⟩
  · next free hslots =>
    rw [hslots] at haccount
    rw [← haccount]
    exact wakeNext_allotted rfl rfl

/-- If a slot is free, one is set aside for the next waiter. -/
theorem offerSlot_allotted
    (haccount : w.slots.map (fun free => free + w.setAside + w.openCount) = bound)
    (hunbounded : w.slots = none → w.waiting = []) : w.offerSlot.Allotted bound := by
  unfold offerSlot
  split
  · next hslots =>
    have hwaiting := hunbounded hslots
    exact ⟨haccount, fun _ hne => absurd hwaiting hne, fun _ => hwaiting⟩
  · next hslots =>
    exact ⟨haccount, fun hne => absurd hslots hne, by simp [hslots]⟩
  · next free hfree hslots =>
    obtain ⟨fewer, rfl⟩ := Nat.exists_eq_succ_of_ne_zero hfree
    rw [hslots] at haccount
    rw [← haccount]
    exact wakeNext_allotted hslots rfl

/-! ## Jobs -/

theorem call_openCount (w : Watcher) (run : Run) : (w.call run).1.openCount = w.openCount + 1 := by
  rw [openCount, call_ledger, Multiset.card_cons, openCount]

theorem begin_allotted (hw : w.Allotted bound) : (w.begin run).1.Allotted bound := by
  unfold begin
  split
  · next hslots =>
    have hwaiting := hw.unbounded hslots
    refine ⟨?_, fun _ hne => absurd hwaiting hne, fun _ => hwaiting⟩
    rw [← hw.account]
    simp [call, hslots]
  · next free hslots =>
    split
    · next hbusy =>
      refine ⟨?_, fun hfree _ => ?_, by simp [hslots]⟩
      · rw [← hw.account]
        simp [setAside, openCount, ledger]
      · have hne : w.waiting ≠ [] := hbusy.resolve_left fun h => hfree (by rw [hslots, h])
        obtain ⟨waiter, hwaiter, hwoken⟩ := hw.handedOn hfree hne
        exact ⟨waiter, List.mem_append_left _ hwaiter, hwoken⟩
    · next hidle =>
      rw [not_or, not_not] at hidle
      obtain ⟨hfree, hwaiting⟩ := hidle
      refine ⟨?_, fun _ hne => absurd hwaiting hne, fun _ => hwaiting⟩
      rw [call_openCount, ← hw.account, hslots]
      simp only [call, Option.map_some, setAside, openCount, ledger]
      congr 1
      omega

theorem wake_allotted (horder : (w.withJob (.wake run)).InOrder) (hw : w.Allotted bound) :
    (w.wake run).1.Allotted bound := by
  let w' : Watcher := { w with waiting := w.waiting.filter fun waiter => waiter.run != run }
  have haside : w.setAside = w'.setAside + 1 := by
    have hwith : (run :: w.ready.filterMap Job.wakes?).Perm
        ((w.waiting.filter Waiter.isWoken).map Waiter.run) := horder.woken
    have hwithout : (w.ready.filterMap Job.wakes?).Perm
        ((w'.waiting.filter Waiter.isWoken).map Waiter.run) := horder.woken_without
    have hlength := hwith.length_eq
    rw [List.length_cons, hwithout.length_eq, List.length_map, List.length_map] at hlength
    exact hlength.symm
  have hbounded : w.slots ≠ none := by
    intro hslots
    have hmem := horder.mem_woken
    simp [hw.unbounded hslots] at hmem
  have hoffer : w'.offerSlot.Allotted (w.slots.map fun free => free + w'.setAside + w.openCount) :=
    offerSlot_allotted rfl fun hslots => absurd hslots hbounded
  have hopen : (w.wake run).1.openCount = w'.offerSlot.openCount + 1 := call_openCount _ _
  refine ⟨?_, hoffer.handedOn, hoffer.unbounded⟩
  have haccount := hoffer.account
  obtain ⟨free, hslots⟩ := Option.ne_none_iff_exists'.mp hbounded
  rw [hslots, Option.map_some, Option.map_eq_some_iff] at haccount
  obtain ⟨left, hleft, hsum⟩ := haccount
  have hslots' : (w.wake run).1.slots = some left := hleft
  rw [hopen, hslots', ← hw.account, hslots, Option.map_some, Option.map_some, haside]
  change some (left + w'.offerSlot.setAside + (w'.offerSlot.openCount + 1)) = _
  congr 1
  omega

theorem resume_allotted {setup : Setup} {ending : Ending}
    (hw : (w.withJob (.resume run ending)).Allotted bound) :
    (w.resume setup run ending).1.Allotted bound := by
  have hopen : (w.withJob (.resume run ending)).openCount = w.openCount + 1 := by
    have hopened : (w.withJob (.resume run ending)).ledger.opened = run ::ₘ w.ledger.opened := rfl
    rw [openCount, hopened, Multiset.card_cons, openCount]
  have haccount := hw.account
  rw [hopen] at haccount
  have hrelease : w.releaseSlot.Allotted bound := by
    refine releaseSlot_allotted ?_ hw.unbounded
    rw [← haccount]
    change w.slots.map _ = w.slots.map _
    congr 1
    funext free
    change _ = free + w.setAside + _
    omega
  refine hrelease.congr rfl rfl ?_
  simp [resume, openCount, ledger, Job.resumes?, List.filterMap_cons]

/-! ## Actions and histories -/

theorem Allotted.withReady {ready : List Job} (hw : w.Allotted bound)
    (h : ready.Perm w.ready) : ({ w with ready } : Watcher).Allotted bound :=
  hw.congr rfl rfl (by rw [openCount, ledger_withReady h, openCount])

theorem perform_allotted {setup : Setup} {tree : Tree} {job : Job}
    (horder : (w.withJob job).InOrder) (hw : (w.withJob job).Allotted bound) :
    (perform setup tree w job).1.Allotted bound := by
  cases job with
  | begin run => exact begin_allotted (hw.congr rfl rfl rfl)
  | wake run => exact wake_allotted horder (hw.congr rfl rfl rfl)
  | resume run ending => exact resume_allotted hw
  | close run => exact (close_takesIn w run).allotted (hw.congr rfl rfl rfl)
  | event kind path =>
    exact ((takesIn_additive setup).perform_event tree w kind path).allotted (hw.congr rfl rfl rfl)

theorem finish_allotted {document : Location} {ending : Ending} (horder : w.InOrder)
    (hw : w.Allotted bound) : ((w.finish document ending).getD w).Allotted bound := by
  cases h : w.finish document ending with
  | none => exact hw
  | some w' =>
    have hledger := finish_ledger horder h
    obtain ⟨run, -, rfl⟩ := Option.map_eq_some_iff.mp h
    exact hw.congr rfl rfl (by rw [Option.getD_some, openCount, hledger, openCount])

/-- Every action keeps the account of the slots. -/
theorem act_allotted (setup : Setup) (action : Action) (horder : w.InOrder)
    (hw : w.Allotted bound) : (w.act setup action).1.Allotted bound := by
  cases action with
  | start tree refusal path =>
    exact ((takesIn_additive setup).start tree refusal path w).allotted hw
  | event tree kind path =>
    exact ((takesIn_additive setup).perform_event tree w kind path).allotted hw
  | handOver kind path => exact (enqueue_takesIn w kind path).allotted hw
  | stop => exact ((takesIn_additive setup).stop w).allotted hw
  | finish document ending => exact finish_allotted horder hw
  | job tree index =>
    simp only [act]
    split
    · exact hw
    · rename_i job h
      obtain ⟨hindex, rfl⟩ := List.getElem?_eq_some_iff.mp h
      let w' : Watcher := { w with ready := w.ready.eraseIdx index }
      have hperm : (w'.withJob w.ready[index]).ready.Perm w.ready :=
        List.getElem_cons_eraseIdx_perm hindex
      exact perform_allotted (horder.withReady hperm) (hw.withReady hperm)

theorem play_allotted (setup : Setup) (actions : List Action) (horder : w.InOrder)
    (hw : w.Allotted bound) : (play setup w actions).1.Allotted bound := by
  induction actions generalizing w with
  | nil => exact hw
  | cons action rest ih =>
    have hfollows : Follows w (w.act setup action) := act_follows setup action horder
    exact ih (hfollows.inOrder horder) (act_allotted setup action horder hw)

/-! ## When no job is ready -/

theorem new_allotted (bound : Int) : (new bound).Allotted (new bound).slots where
  account := by simp [new, setAside, openCount, ledger]
  handedOn := fun _ hne => absurd rfl hne
  unbounded := fun _ => rfl

/-- If no job is ready, every registered run waits or has its compilation open,
and no slot is set aside. -/
theorem InOrder.counts_of_quiet (hw : w.InOrder) (hquiet : w.ready = []) :
    w.inFlight.length = w.waiting.length + w.openCount ∧ w.setAside = 0 := by
  constructor
  · have hstages := congrArg Multiset.card hw.sound.stages
    simp only [Multiset.card_add] at hstages
    have hunbegun : w.ledger.unbegun.card = w.waiting.length := by simp [ledger, hquiet]
    have hended : w.ledger.ended.card = 0 := by simp [ledger, hquiet]
    rw [hunbegun, hended, Nat.add_zero] at hstages
    exact hstages.symm
  · have hwoken := hw.woken.length_eq
    rw [hquiet, List.length_map] at hwoken
    exact hwoken.symm

/-- If no job is ready, as many compilations are open as slots and registered
runs allow. -/
theorem Allotted.openCount_of_quiet (hw : w.Allotted bound) (horder : w.InOrder)
    (hquiet : w.ready = []) :
    w.openCount = (bound.map fun n => min n w.inFlight.length).getD w.inFlight.length := by
  obtain ⟨hruns, haside⟩ := horder.counts_of_quiet hquiet
  cases hslots : w.slots with
  | none =>
    have hnone : bound = none := by rw [← hw.account, hslots, Option.map_none]
    have hwaiting := hw.unbounded hslots
    simp [hnone, hruns, hwaiting]
  | some free =>
    have haccount := hw.account
    rw [hslots, Option.map_some, haside] at haccount
    rw [← haccount, Option.map_some, Option.getD_some]
    have hnobody : free ≠ 0 → w.waiting = [] := by
      intro hfree
      by_contra hne
      obtain ⟨waiter, hwaiter, hwoken⟩ := hw.handedOn (by simpa [hslots] using hfree) hne
      have hmem : waiter ∈ w.waiting.filter Waiter.isWoken := List.mem_filter.mpr ⟨hwaiter, hwoken⟩
      rw [List.eq_nil_of_length_eq_zero haside] at hmem
      exact absurd hmem List.not_mem_nil
    by_cases hfree : free = 0
    · omega
    · have hlength := congrArg List.length (hnobody hfree)
      rw [List.length_nil] at hlength
      omega

/-- The open compilations of a history are those of the watcher that it leads
to. -/
theorem openCalls_length (setup : Setup) (bound : Int) (actions : List Action) :
    (openCalls (play setup (new bound) actions).2).length =
      (play setup (new bound) actions).1.openCount := by
  have haccounts := play_accounts setup bound actions
  have hsound := play_sound setup bound actions
  have hopened : (play setup (new bound) actions).1.ledger.opened =
      ↑(openCalls (play setup (new bound) actions).2) := by
    refine (Multiset.Nodup.ext hsound.nodup_opened ?_).mpr fun run => ?_
    · exact Multiset.coe_nodup.mpr (haccounts.nodup_calls.filter _)
    · rw [haccounts.opened run, Multiset.mem_coe]
      simp [openCalls]
  rw [openCount, hopened, Multiset.coe_card]

end ProseCompiler.Watcher
