import ProseCompiler.Proofs.Files.Appending
import ProseCompiler.Proofs.Files.LinkFree
import ProseCompiler.Proofs.Files.WellFormed

/-!
# Files below directories that were provided

There are two ways to see that a directory is there.  `makeOrEnter` differs from `makeOrKeep`
in the faults that it passes on, and in nothing else (`makeOrEnter_cases`), so what is known of
one of them is known of the other.

Either way, what is new lies on the way to the directory (`Provides`).  A file below can be
written then, and nothing else has changed but for directories above it (`Provides.putsFile`).
If nothing could be reached at the path of the file before, then nothing can be reached there
now (`Provides.vacant`): a new directory is empty, and directories that were there before have
not changed.
-/

namespace ProseCompiler.Tree

variable {t t' made : Tree} {links : Nat} {place l m d : Location} {pieces reversed : List Text}
  {n : Option Node} {path name : Text} {anchor : Anchor} {above : List Text} {old octets : Bytes}

/-! ## Refusals -/

theorem advance_true_of_refused {error : SystemError}
    (h : t.advance false place pieces = .refused error) :
    t.advance true place pieces = .refused error := by
  fun_induction advance t false place pieces <;> grind [advance]

theorem findFrom_true_of_error {error : SystemError}
    (h : t.findFrom false links place pieces = .error error) :
    t.findFrom true links place pieces = .error error := by
  induction links using Nat.strongRecOn generalizing place pieces with
  | _ links ih =>
    cases hadvance : t.advance false place pieces with
    | arrived p n =>
      rw [findFrom_of_arrived hadvance] at h
      cases h
    | refused refusal =>
      have htrue := advance_true_of_refused hadvance
      unfold findFrom at h ⊢
      rw [hadvance] at h
      rwa [htrue]
    | atLink d target rest =>
      have htrue := advance_true_of_atLink hadvance
      cases links with
      | zero =>
        unfold findFrom at h ⊢
        rw [hadvance] at h
        rwa [htrue]
      | succ fewer =>
        rw [findFrom_of_atLink hadvance] at h
        rw [findFrom_of_atLink htrue]
        exact ih fewer (Nat.lt_succ_self fewer) h

/-- A lookup that is refused is refused whether it follows the last link or not. -/
theorem find_true_of_error {error : SystemError} (h : t.find false path = .error error) :
    t.find true path = .error error := by
  rw [find] at h ⊢
  split at h
  · next hempty => rw [if_pos hempty, h]
  · next hempty =>
    rw [if_neg hempty]
    split at h
    · next hlong => rw [if_pos hlong, h]
    · next hshort =>
      rw [if_neg hshort]
      exact findFrom_true_of_error h

theorem isDirectory_iff_canEnter : t.isDirectory path = .ok true ↔ t.canEnter path = true := by
  rw [isDirectory, test, canEnter]
  cases t.status true path with
  | error fault => cases hmeans : meansAbsent fault <;> simp [hmeans]
  | ok found => simp

/-! ## One directory -/

/-- Where a directory stands none is made, because something stands there. -/
theorem makeDirectory_error {fault : Fault} (henter : t.canEnter path = true)
    (h : t.makeDirectory path = .error fault) :
    ∃ error, fault = .system error path ∧ error ≠ .noEntry := by
  obtain ⟨hcheck, d, hd⟩ := canEnter_iff.mp henter
  simp only [makeDirectory, hcheck] at h
  cases hfind : t.find false path with
  | error error =>
    rw [hfind] at h
    cases h
    refine ⟨error, rfl, ?_⟩
    rintro rfl
    rw [find_true_of_error hfind] at hd
    cases hd
  | ok found =>
    obtain ⟨place, n⟩ := found
    rw [hfind] at h
    cases n with
    | none => cases h
    | some node =>
      cases h
      exact ⟨.entryExists, rfl, by simp⟩

/-- A directory is made or kept, whichever way, or cannot be entered. -/
theorem makeOrEnter_cases (t : Tree) (path : Text) :
    (∃ made, t.makeOrEnter path = (made, .ok ()) ∧ t.makeOrKeep path = (made, .ok ())) ∨
      ∃ fault, t.canEnter path = false ∧ t.makeOrEnter path = (t, .error fault) := by
  cases hmake : t.makeDirectory path with
  | ok made => exact .inl ⟨made, by rw [makeOrEnter, hmake], by rw [makeOrKeep, hmake]⟩
  | error fault =>
    cases henter : t.canEnter path with
    | true =>
      obtain ⟨error, rfl, hentry⟩ := makeDirectory_error henter hmake
      refine .inl ⟨t, ?_, by simp [makeOrKeep, hmake, henter]⟩
      rw [makeOrEnter, hmake, isDirectory_iff_canEnter.mpr henter]
      cases error <;> first | rfl | exact absurd rfl hentry
    | false =>
      have hdirectory : t.isDirectory path ≠ .ok true := by
        rw [ne_eq, isDirectory_iff_canEnter, henter]
        exact Bool.false_ne_true
      have hrefused : ∃ fault, t.makeOrEnter path = (t, .error fault) := by
        rw [makeOrEnter, hmake]
        simp only
        split
        · exact ⟨_, rfl⟩
        · split
          · next hok => exact absurd hok hdirectory
          · exact ⟨_, rfl⟩
          · exact ⟨_, rfl⟩
        · exact ⟨_, rfl⟩
      obtain ⟨refusal, hrefused⟩ := hrefused
      exact .inr ⟨refusal, rfl, hrefused⟩

theorem makeOrKeep_of_makeOrEnter (h : t.makeOrEnter path = (t', .ok ())) :
    t.makeOrKeep path = (t', .ok ()) := by
  rcases makeOrEnter_cases t path with ⟨made, hmade, hkept⟩ | ⟨fault, -, hrefused⟩
  · rw [hmade] at h
    cases h
    exact hkept
  · rw [hrefused] at h
    cases h

theorem makeOrEnter_error {fault : Fault} (h : t.makeOrEnter path = (t', .error fault)) :
    t' = t ∧ t.canEnter path = false := by
  rcases makeOrEnter_cases t path with ⟨made, hmade, -⟩ | ⟨_, henter, hrefused⟩
  · rw [hmade] at h
    cases h
  · rw [hrefused] at h
    cases h
    exact ⟨rfl, henter⟩

/-! ## A directory and those above it -/

theorem provide_ofLocation (t : Tree) (l : Location) :
    t.provide (Path.ofLocation l) = t.provideDirectory .root l.reverse := rfl

/-- The last directory is made or entered at once, or in the tree that the ones above it came
to, unless their making failed. -/
theorem enterAll_cons (t : Tree) (anchor : Anchor) (name : Text) (above : List Text) :
    t.enterAll anchor (name :: above) =
        t.makeOrEnter (Path.text ⟨anchor, (name :: above).reverse⟩) ∨
      ∃ made result, t.enterAll anchor above = (made, result) ∧
        (result = .ok () ∧ t.enterAll anchor (name :: above) =
            made.makeOrEnter (Path.text ⟨anchor, (name :: above).reverse⟩) ∨
          ∃ fault, result = .error fault ∧
            t.enterAll anchor (name :: above) = (made, .error fault)) := by
  rw [enterAll]
  rcases makeOrEnter_cases t (Path.text ⟨anchor, (name :: above).reverse⟩) with
    ⟨made, hmade, -⟩ | ⟨fault, -, hrefused⟩
  · rw [hmade]
    exact .inl rfl
  · rw [hrefused]
    split
    · next htry =>
      cases htry
      refine .inr ?_
      cases hprovide : t.enterAll anchor above with
      | mk made result =>
        cases result with
        | ok => exact ⟨made, .ok (), rfl, .inl ⟨rfl, rfl⟩⟩
        | error fault => exact ⟨made, .error fault, rfl, .inr ⟨fault, rfl, rfl⟩⟩
    · exact .inl rfl

theorem WellFormed.makeOrEnter (hform : t.WellFormed) (path : Text) :
    (t.makeOrEnter path).1.WellFormed := by
  cases hmade : t.makeOrEnter path with
  | mk made result =>
    cases result with
    | ok =>
      have hkept := hform.makeOrKeep path
      rwa [makeOrKeep_of_makeOrEnter hmade] at hkept
    | error fault => rwa [(makeOrEnter_error hmade).1]

theorem WellFormed.provideDirectory (hform : t.WellFormed) (anchor : Anchor)
    (reversed : List Text) : (t.provideDirectory anchor reversed).1.WellFormed :=
  provideDirectory_keeps (fun _ path hmade => hmade.makeOrEnter path) hform anchor reversed

/-- If the making of directories fails, the path cannot be entered. -/
theorem enterAll_error {fault : Fault} (hclean : Location.IsClean reversed.reverse)
    (h : t.enterAll .root reversed = (t', .error fault)) :
    t'.canEnter (Location.text reversed.reverse) = false := by
  induction reversed generalizing t' fault with
  | nil =>
    obtain ⟨rfl, henter⟩ := makeOrEnter_error h
    exact henter
  | cons name above ih =>
    rw [List.reverse_cons] at hclean
    rcases enterAll_cons t .root name above with
      heq | ⟨made, result, habove, ⟨-, heq⟩ | ⟨other, rfl, heq⟩⟩
    · rw [heq] at h
      obtain ⟨rfl, henter⟩ := makeOrEnter_error h
      exact henter
    · rw [heq] at h
      obtain ⟨rfl, henter⟩ := makeOrEnter_error h
      exact henter
    · rw [heq] at h
      cases h
      rw [List.reverse_cons]
      exact canEnter_concat_eq_false hclean (ih hclean.of_append habove)

/-- A directory that is not tried again at once is one that misses those above it. -/
theorem canEnter_of_enterAllDepth (h : 1 < t.enterAllDepth .root reversed) :
    t.canEnter (Location.text reversed.reverse) = false := by
  cases reversed with
  | nil =>
    rw [enterAllDepth] at h
    omega
  | cons name above =>
    rw [enterAllDepth] at h
    split at h
    · next hmake =>
      by_contra henter
      obtain ⟨error, heq, hentry⟩ :=
        makeDirectory_error ((Bool.not_eq_false _).mp henter) hmake
      cases heq
      exact hentry rfl
    · omega

theorem provideDirectory_error {fault : Fault} (hclean : Location.IsClean reversed.reverse)
    (h : t.provideDirectory .root reversed = (t', .error fault)) :
    t'.canEnter (Location.text reversed.reverse) = false := by
  rcases provideDirectory_cases t .root reversed with heq | ⟨hdeep, _, heq⟩
  · exact enterAll_error hclean (heq ▸ h)
  · rw [heq] at h
    cases h
    exact canEnter_of_enterAllDepth hdeep

theorem enterAll_of_provideDirectory (h : t.provideDirectory anchor reversed = (t', .ok ())) :
    t.enterAll anchor reversed = (t', .ok ()) := by
  rcases provideDirectory_cases t anchor reversed with heq | ⟨-, _, heq⟩
  · exact heq ▸ h
  · rw [heq] at h
    cases h

/-! ## What is changed -/

/-- A tree is the same, or something new stands in it. -/
def SameOrGrown (t t' : Tree) : Prop := t' = t ∨ ∃ l, t.node? l = none ∧ t'.node? l ≠ none

theorem SameOrGrown.trans (hfirst : SameOrGrown t made) (hsecond : SameOrGrown made t')
    (hadds : AddsDirectories made t') : SameOrGrown t t' := by
  rcases hfirst with rfl | ⟨l, hnone, hnew⟩
  · exact hsecond
  · refine .inr ⟨l, hnone, ?_⟩
    rcases hadds.same_or_new l with hsame | ⟨hnone', -⟩
    · rwa [hsame]
    · exact absurd hnone' hnew

theorem makeOrEnter_sameOrGrown (t : Tree) (path : Text) :
    SameOrGrown t (t.makeOrEnter path).1 := by
  rcases makeOrEnter_cases t path with ⟨made, hmade, hkept⟩ | ⟨fault, -, hrefused⟩
  · rw [hmade]
    obtain ⟨-, ⟨place, hfind, rfl, -⟩ | ⟨rfl, -⟩⟩ := makeOrKeep_ok hkept
    · have hnone : none = t.node? place := node?_of_find hfind
      have hne : place ≠ [] := by
        rintro rfl
        cases hnone
      exact .inr ⟨place, hnone.symm, by rw [node?_put_self hne]; simp⟩
    · exact .inl rfl
  · rw [hrefused]
    exact .inl rfl

theorem provideDirectory_sameOrGrown (t : Tree) (anchor : Anchor) (reversed : List Text) :
    SameOrGrown t (t.provideDirectory anchor reversed).1 :=
  provideDirectory_keeps (P := SameOrGrown t)
    (fun made path hgrown =>
      hgrown.trans (makeOrEnter_sameOrGrown made path) (makeOrEnter_adds made path))
    (.inl rfl) anchor reversed

/-! ## Where the new directories are -/

/-- Directories were added, all of them on the way to a directory that the path of a place
leads to. -/
structure Provides (t made : Tree) (l : Location) : Prop where
  adds : AddsDirectories t made
  leads : ∃ d, made.find true (Location.text l) = .ok (d, some .directory) ∧
    NewOnlyAbove t made d

namespace Provides

theorem of_canEnter (h : t.canEnter (Location.text l) = true) : Provides t t l := by
  obtain ⟨-, d, hd⟩ := canEnter_iff.mp h
  exact ⟨.refl t, d, hd, .refl t d⟩

/-- A directory that is made or entered below one that was provided is provided. -/
theorem makeOrEnter (h : Provides t made l) (hform : t.WellFormed) (hclean : (l ++ [name]).IsClean)
    (hmade : made.makeOrEnter (Location.text (l ++ [name])) = (t', .ok ())) :
    Provides t t' (l ++ [name]) := by
  have hkept := makeOrKeep_of_makeOrEnter hmade
  have hadds := makeOrEnter_adds made (Location.text (l ++ [name]))
  rw [hmade] at hadds
  obtain ⟨d, hbase, hnew⟩ := h.leads
  exact ⟨h.adds.trans hadds, makeOrKeep_newOnlyAbove hform hclean hnew hbase hkept⟩

theorem of_ensureDirectory (hform : t.WellFormed) (hclean : l.IsClean)
    (h : t.ensureDirectory l.reverse = (made, .ok ())) : Provides t made l := by
  have hadds := ensureDirectory_adds t l.reverse
  rw [h] at hadds
  rw [← List.reverse_reverse l] at hclean
  have hleads := ensureDirectory_ok hform hclean h
  rw [List.reverse_reverse] at hleads
  exact ⟨hadds, hleads⟩

theorem of_enterAll (hform : t.WellFormed) (hclean : Location.IsClean reversed.reverse)
    (h : t.enterAll .root reversed = (made, .ok ())) :
    Provides t made reversed.reverse := by
  induction reversed generalizing made with
  | nil =>
    have hroot : t.canEnter (Location.text []) = true :=
      canEnter_iff.mpr ⟨by decide, [], find_text_nil t⟩
    obtain ⟨-, ⟨place, hfind, -, -⟩ | ⟨rfl, -⟩⟩ := makeOrKeep_ok (makeOrKeep_of_makeOrEnter h)
    · have hfind' : t.find false (Location.text []) = .ok (place, none) := hfind
      rw [find_text_nil] at hfind'
      cases hfind'
    · exact .of_canEnter hroot
  | cons name above ih =>
    rw [List.reverse_cons] at hclean ⊢
    rcases enterAll_cons t .root name above with
      heq | ⟨made', result, habove, ⟨rfl, heq⟩ | ⟨fault, rfl, heq⟩⟩
    · rw [heq, List.reverse_cons] at h
      have henter := canEnter_of_makeOrKeep hclean (makeOrKeep_of_makeOrEnter h)
      exact (of_canEnter henter).makeOrEnter hform hclean h
    · rw [heq, List.reverse_cons] at h
      exact (ih hclean.of_append habove).makeOrEnter hform hclean h
    · rw [heq] at h
      cases h

theorem of_provideDirectory (hform : t.WellFormed) (hclean : Location.IsClean reversed.reverse)
    (h : t.provideDirectory .root reversed = (made, .ok ())) :
    Provides t made reversed.reverse :=
  of_enterAll hform hclean (enterAll_of_provideDirectory h)

end Provides

/-! ## Files below -/

/-- A file with given octets stands at a place, directories stand above it where nothing stood,
and nothing else is changed. -/
structure PutsFile (t t' : Tree) (place : Location) (octets : Bytes) : Prop where
  holds : t'.node? place = some (.file octets)
  others : ∀ l, l ≠ place → t'.node? l = t.node? l ∨
    t.node? l = none ∧ t'.node? l = some .directory ∧ l <+: place
  workingDirectory_eq : t'.workingDirectory = t.workingDirectory

namespace Provides

section Below

variable (h : Provides t made (Location.parent l)) (hform : t.WellFormed) (hclean : l.IsClean)
  (hne : l ≠ [])
include h hform hclean hne

/-- Below a new directory nothing stands, and the path of a file there leads to a place below
all new directories. -/
theorem new_above {followLast : Bool}
    (hfind : made.find followLast (Location.text l) = .ok (place, n)) (hm : t.node? m = none)
    (hm' : made.node? m ≠ none) : m <+: place ∧ n = none := by
  have hsplit : l = Location.parent l ++ [l.getLast hne] := (List.dropLast_concat_getLast hne).symm
  obtain ⟨d, hbase, hnew⟩ := h.leads
  rw [hsplit] at hclean hfind
  obtain ⟨rfl, hnone⟩ := hnew.place_eq hform hm hm' hclean hbase hfind
  exact ⟨(hnew m hm hm').trans (List.prefix_append d _), hnone⟩

/-- If a path led to nothing, then it leads to nothing now. -/
theorem vacant (hsame : SameOrGrown t made)
    (hvacant : ∀ p node, t.find true (Location.text l) ≠ .ok (p, some node)) :
    ∀ p node, made.find true (Location.text l) ≠ .ok (p, some node) := by
  rcases hsame with rfl | ⟨m, hm, hm'⟩
  · exact hvacant
  · intro p node hfind
    cases (h.new_above hform hclean hne hfind hm hm').2

theorem putsFile (hopen : made.writable (Location.text l) = .ok (place, old)) (octets : Bytes) :
    PutsFile t (made.put place (.file octets)) place octets := by
  have hleaf := isLeaf_of_writable hopen
  obtain ⟨n, hfind⟩ := find_of_writable hopen
  refine ⟨node?_put_self hleaf.ne_nil, fun m hm => ?_, ?_⟩
  · rw [node?_put_of_ne hleaf.ne_nil hm]
    rcases h.adds.same_or_new m with hsame | ⟨hnone, hdirectory⟩
    · exact .inl hsame
    · exact .inr ⟨hnone, hdirectory,
        (h.new_above hform hclean hne hfind hnone (by simp [hdirectory])).1⟩
  · rw [workingDirectory_put]
    exact h.adds.workingDirectory_eq

end Below

/-- What is opened under a path stood there before, if anything did. -/
theorem node?_of_writable (h : Provides t made m)
    (hopen : made.writable path = .ok (place, old)) :
    t.node? place = none ∨ t.node? place = some (.file old) := by
  rcases Tree.node?_of_writable hopen with hnone | hfile
  · rcases h.adds.same_or_new place with hsame | ⟨hbefore, -⟩
    · exact .inl (hsame.symm.trans hnone)
    · exact .inl hbefore
  · exact .inr (h.adds.file_iff.mp hfile)

end Provides

end ProseCompiler.Tree
