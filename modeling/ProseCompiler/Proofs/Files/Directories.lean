import ProseCompiler.Files.Operations
import ProseCompiler.Proofs.Files.Lookup

/-!
# Making directories

Making the directories above a file changes no file, whatever comes of it.

* `AddsDirectories` is all that it can do to a tree: directories stand where
  nothing stood.  `makeAll_adds` says so of every call.
* `makeAll_ok` is the case that it succeeds.  The path then leads to a
  directory, and whatever is new lies on the way to that directory.
* `makeAll_error` is the other case.  The path does not lead to a
  directory then.

`ensureDirectory` does the same, unless too many directories are missing
(`IsRemote`): then it fails and changes nothing.
-/

namespace ProseCompiler.Tree

variable {t t' t'' : Tree} {l d : Location} {path name : Text} {above reversed : List Text}

/-! ## What can be changed -/

/-- Directories stand where nothing stood, and nothing else is changed. -/
structure AddsDirectories (t t' : Tree) : Prop where
  same_or_new : ∀ l, t'.node? l = t.node? l ∨ (t.node? l = none ∧ t'.node? l = some .directory)
  workingDirectory_eq : t'.workingDirectory = t.workingDirectory

namespace AddsDirectories

theorem refl (t : Tree) : AddsDirectories t t := ⟨fun _ => .inl rfl, rfl⟩

theorem trans (hfirst : AddsDirectories t t') (hsecond : AddsDirectories t' t'') :
    AddsDirectories t t'' := by
  refine ⟨fun l => ?_, hsecond.workingDirectory_eq.trans hfirst.workingDirectory_eq⟩
  rcases hfirst.same_or_new l with hsame | ⟨hnone, hnew⟩ <;>
    rcases hsecond.same_or_new l with hsame' | ⟨hnone', hnew'⟩
  · exact .inl (hsame'.trans hsame)
  · exact .inr ⟨hsame ▸ hnone', hnew'⟩
  · exact .inr ⟨hnone, hsame'.trans hnew⟩
  · exact .inr ⟨hnone, hnew'⟩

theorem put (hl : t.node? l = none) : AddsDirectories t (t.put l .directory) := by
  have hne : l ≠ [] := by
    rintro rfl
    cases hl
  refine ⟨fun m => ?_, workingDirectory_put t l _⟩
  rw [node?_put hne]
  by_cases hm : m = l
  · rw [if_pos hm, hm]
    exact .inr ⟨hl, rfl⟩
  · rw [if_neg hm]
    exact .inl rfl

/-- The files are the same, octet by octet. -/
theorem file_iff (hadds : AddsDirectories t t') {content : Bytes} :
    t'.node? l = some (.file content) ↔ t.node? l = some (.file content) := by
  rcases hadds.same_or_new l with hsame | ⟨hnone, hnew⟩
  · rw [hsame]
  · simp [hnone, hnew]

end AddsDirectories

/-! ## One directory -/

theorem makeDirectory_eq_ok_iff :
    t.makeDirectory path = .ok t' ↔
      checkPath path = .ok () ∧ ∃ place, t.find false path = .ok (place, none) ∧
        t' = t.put place .directory := by
  rw [makeDirectory]
  cases hcheck : checkPath path with
  | error fault => simp
  | ok =>
    cases hfind : t.find false path with
    | error error => simp
    | ok found =>
      obtain ⟨place, n⟩ := found
      cases n with
      | none => simp [eq_comm]
      | some node => simp

/-- A directory is made, or one is there already, or neither. -/
theorem makeOrKeep_cases (t : Tree) (path : Text) :
    (∃ place, checkPath path = .ok () ∧ t.find false path = .ok (place, none) ∧
      t.makeOrKeep path = (t.put place .directory, .ok ())) ∨
    (t.canEnter path = true ∧ t.makeOrKeep path = (t, .ok ())) ∨
    ∃ fault, t.canEnter path = false ∧ t.makeOrKeep path = (t, .error fault) := by
  cases hmake : t.makeDirectory path with
  | ok made =>
    obtain ⟨hcheck, place, hfind, rfl⟩ := makeDirectory_eq_ok_iff.mp hmake
    exact .inl ⟨place, hcheck, hfind, by rw [makeOrKeep, hmake]⟩
  | error fault =>
    cases henter : t.canEnter path with
    | true => exact .inr (.inl ⟨rfl, by simp [makeOrKeep, hmake, henter]⟩)
    | false => exact .inr (.inr ⟨fault, rfl, by simp [makeOrKeep, hmake, henter]⟩)

theorem makeOrKeep_adds (t : Tree) (path : Text) : AddsDirectories t (t.makeOrKeep path).1 := by
  rcases makeOrKeep_cases t path with ⟨place, -, hfind, hmade⟩ | ⟨-, hkept⟩ | ⟨_, -, hrefused⟩
  · rw [hmade]
    exact .put (node?_of_find hfind).symm
  · rw [hkept]
    exact .refl t
  · rw [hrefused]
    exact .refl t

theorem makeOrKeep_error {fault : Fault} (h : t.makeOrKeep path = (t', .error fault)) :
    t'.canEnter path = false := by
  rcases makeOrKeep_cases t path with ⟨_, -, -, hmade⟩ | ⟨-, hkept⟩ | ⟨_, henter, hrefused⟩
  · rw [hmade] at h
    cases h
  · rw [hkept] at h
    cases h
  · rw [hrefused] at h
    cases h
    exact henter

/-- If it succeeds, the path leads to a directory, and what is new is that
directory. -/
theorem makeOrKeep_ok (h : t.makeOrKeep path = (t', .ok ())) :
    checkPath path = .ok () ∧
      ((∃ place, t.find false path = .ok (place, none) ∧ t' = t.put place .directory ∧
          t'.find true path = .ok (place, some .directory)) ∨
        t' = t ∧ ∃ place, t.find true path = .ok (place, some .directory)) := by
  rcases makeOrKeep_cases t path with
    ⟨place, hcheck, hfind, hmade⟩ | ⟨henter, hkept⟩ | ⟨_, -, hrefused⟩
  · rw [hmade] at h
    cases h
    have hnone : none = t.node? place := node?_of_find hfind
    have hleaf : t.IsLeaf place := ⟨by simp [← hnone], fun target => by simp [← hnone]⟩
    have hput := find_put (e := .directory) hleaf (fun _ => by simp)
      (find_true_of_false hfind (fun _ => by simp))
    rw [node?_put_self hleaf.ne_nil] at hput
    exact ⟨hcheck, .inl ⟨place, hfind, rfl, hput⟩⟩
  · rw [hkept] at h
    cases h
    obtain ⟨hcheck, hfind⟩ := canEnter_iff.mp henter
    exact ⟨hcheck, .inr ⟨rfl, hfind⟩⟩
  · rw [hrefused] at h
    cases h

/-! ## A directory and those above it -/

/-- The last directory is made in the tree that the ones above it came to, unless
their making failed for good. -/
theorem makeAll_cons (t : Tree) (name : Text) (above : List Text) :
    (t.canReach (Location.text above.reverse) = true ∧
      t.makeAll (name :: above) =
        t.makeOrKeep (Location.text (above.reverse ++ [name]))) ∨
    ∃ t' result, t.makeAll above = (t', result) ∧
      (t.makeAll (name :: above) =
          t'.makeOrKeep (Location.text (above.reverse ++ [name])) ∨
        ∃ fault, result = .error fault ∧
          t.makeAll (name :: above) = (t', .error fault)) := by
  rw [makeAll, List.reverse_cons]
  cases hreach : t.canReach (Location.text above.reverse) with
  | true => exact .inl ⟨rfl, if_pos rfl⟩
  | false =>
    refine .inr ⟨_, _, rfl, ?_⟩
    rw [if_neg Bool.false_ne_true]
    cases hensure : t.makeAll above with
    | mk t' result =>
      cases result with
      | ok => exact .inl rfl
      | error fault =>
        cases hpresent : meansPresent fault with
        | true => exact .inl (by simp [hpresent])
        | false => exact .inr ⟨fault, rfl, by simp [hpresent]⟩

/-- What the making of one directory keeps is kept by the making of all of them, whatever comes
of it. -/
theorem makeAll_keeps {P : Tree → Prop}
    (hkept : ∀ made path, P made → P (made.makeOrKeep path).1) (ht : P t)
    (reversed : List Text) : P (t.makeAll reversed).1 := by
  induction reversed with
  | nil => exact ht
  | cons name above ih =>
    rcases makeAll_cons t name above with
      ⟨-, heq⟩ | ⟨t', result, habove, heq | ⟨fault, -, heq⟩⟩
    · rw [heq]
      exact hkept t _ ht
    · rw [habove] at ih
      rw [heq]
      exact hkept t' _ ih
    · rw [habove] at ih
      rwa [heq]

/-- Only directories are added, whatever comes of it. -/
theorem makeAll_adds (t : Tree) (reversed : List Text) :
    AddsDirectories t (t.makeAll reversed).1 :=
  makeAll_keeps (P := AddsDirectories t)
    (fun made path hadds => hadds.trans (makeOrKeep_adds made path)) (.refl t) reversed

/-- A path below one that cannot be entered cannot be entered either. -/
theorem canEnter_concat_eq_false (hclean : (l ++ [name]).IsClean)
    (h : t.canEnter (Location.text l) = false) :
    t.canEnter (Location.text (l ++ [name])) = false := by
  cases hbelow : t.canEnter (Location.text (l ++ [name])) with
  | false => rfl
  | true =>
    obtain ⟨hcheck, d, hfind⟩ := canEnter_iff.mp hbelow
    rw [canEnter_of_find_concat hclean hcheck hfind] at h
    exact h

/-- If the making of directories fails, the path cannot be entered. -/
theorem makeAll_error {fault : Fault} (hclean : Location.IsClean reversed.reverse)
    (h : t.makeAll reversed = (t', .error fault)) :
    t'.canEnter (Location.text reversed.reverse) = false := by
  induction reversed generalizing t' fault with
  | nil => cases h
  | cons name above ih =>
    rw [List.reverse_cons] at hclean ⊢
    rcases makeAll_cons t name above with
      ⟨-, heq⟩ | ⟨u, result, habove, heq | ⟨other, rfl, heq⟩⟩
    · exact makeOrKeep_error (heq ▸ h)
    · exact makeOrKeep_error (heq ▸ h)
    · rw [heq] at h
      cases h
      exact canEnter_concat_eq_false hclean (ih hclean.of_append habove)

/-! ## Where the new directories are -/

/-- Where nothing stood, only what lies on the way to a place can stand now. -/
def NewOnlyAbove (t t' : Tree) (d : Location) : Prop :=
  ∀ l, t.node? l = none → t'.node? l ≠ none → l <+: d

theorem NewOnlyAbove.refl (t : Tree) (d : Location) : NewOnlyAbove t t d :=
  fun _ hnone hsome => absurd hnone hsome

/-- If anything is new on the way to a place, nothing stands below the place. -/
theorem NewOnlyAbove.node?_concat (hnew : NewOnlyAbove t t' d) (hform : t.WellFormed)
    (hl : t.node? l = none) (hl' : t'.node? l ≠ none) : t'.node? (d ++ [name]) = none := by
  have hd : t.node? d = none := hform.node?_eq_none_of_above (hnew l hl hl') hl
  have hbelow := hform.node?_eq_none_of_above (List.prefix_append d [name]) hd
  by_contra hsome
  have hlength := (hnew _ hbelow hsome).length_le
  rw [List.length_append, List.length_singleton] at hlength
  omega

/-- A name below a directory with something new on the way to it leads to the
place of that name. -/
theorem NewOnlyAbove.place_eq {followLast : Bool} {p : Location} {n : Option Node}
    (hnew : NewOnlyAbove t t' d) (hform : t.WellFormed) (hl : t.node? l = none)
    (hl' : t'.node? l ≠ none) {base : Location} (hclean : (base ++ [name]).IsClean)
    (hbase : t'.find true (Location.text base) = .ok (d, some .directory))
    (h : t'.find followLast (Location.text (base ++ [name])) = .ok (p, n)) :
    p = d ++ [name] ∧ n = none := by
  have hempty : t'.node? (d ++ [name]) = none := hnew.node?_concat hform hl hl'
  obtain ⟨other, fewer, hother, hname⟩ := find_concat hclean h
  rw [hbase] at hother
  cases hother
  have hfound := findFrom_name hclean.last (fun _ target => by simp [hempty]) hname
  exact ⟨hfound.1, hfound.2.trans hempty⟩

/-- A directory is made or kept only below one that can be entered. -/
theorem canEnter_of_makeOrKeep {base : Location} (hclean : (base ++ [name]).IsClean)
    (h : t.makeOrKeep (Location.text (base ++ [name])) = (t', .ok ())) :
    t.canEnter (Location.text base) = true := by
  obtain ⟨hcheck, ⟨place, hfind, -, -⟩ | ⟨-, place, hfind⟩⟩ := makeOrKeep_ok h
  · exact canEnter_of_find_concat hclean hcheck hfind
  · exact canEnter_of_find_concat hclean hcheck hfind

/-- What `makeOrKeep` adds below a directory lies on the way to the directory
that its path leads to then. -/
theorem makeOrKeep_newOnlyAbove {base : Location} {u : Tree} (hform : t.WellFormed)
    (hclean : (base ++ [name]).IsClean) (hnew : NewOnlyAbove t u d)
    (hbase : u.find true (Location.text base) = .ok (d, some .directory))
    (h : u.makeOrKeep (Location.text (base ++ [name])) = (t', .ok ())) :
    ∃ place, t'.find true (Location.text (base ++ [name])) = .ok (place, some .directory) ∧
      NewOnlyAbove t t' place := by
  obtain ⟨-, ⟨place, hfind, rfl, hfound⟩ | ⟨rfl, place, hfound⟩⟩ := makeOrKeep_ok h
  · refine ⟨place, hfound, fun l hl hl' => ?_⟩
    obtain ⟨other, fewer, hother, hname⟩ := find_concat hclean hfind
    rw [hbase] at hother
    cases hother
    obtain ⟨rfl, hnone⟩ := findFrom_name hclean.last (fun h => absurd h (by simp)) hname
    by_cases hplace : l = d ++ [name]
    · exact hplace ▸ List.prefix_refl l
    · rw [node?_put_of_ne (by simp) hplace] at hl'
      exact (hnew l hl hl').trans (List.prefix_append d [name])
  · refine ⟨place, hfound, fun l hl hl' => ?_⟩
    have hnone := (hnew.place_eq hform hl hl' hclean hbase hfound).2
    cases hnone

/-- If the making of directories succeeds, the path leads to a directory, and
what is new lies on the way there. -/
theorem makeAll_ok (hform : t.WellFormed) (hclean : Location.IsClean reversed.reverse)
    (h : t.makeAll reversed = (t', .ok ())) :
    ∃ d, t'.find true (Location.text reversed.reverse) = .ok (d, some .directory) ∧
      NewOnlyAbove t t' d := by
  induction reversed generalizing t' with
  | nil =>
    cases h
    exact ⟨[], find_text_nil t, .refl t []⟩
  | cons name above ih =>
    rw [List.reverse_cons] at hclean ⊢
    rcases makeAll_cons t name above with
      ⟨hreach, heq⟩ | ⟨u, result, habove, heq | ⟨fault, rfl, heq⟩⟩
    · rw [heq] at h
      obtain ⟨-, d, hbase⟩ := canEnter_iff.mp (canEnter_of_makeOrKeep hclean h)
      exact makeOrKeep_newOnlyAbove hform hclean (.refl t d) hbase h
    · rw [heq] at h
      cases result with
      | ok =>
        obtain ⟨d, hbase, hnew⟩ := ih hclean.of_append habove
        exact makeOrKeep_newOnlyAbove hform hclean hnew hbase h
      | error fault =>
        have henter := canEnter_of_makeOrKeep hclean h
        rw [makeAll_error hclean.of_append habove] at henter
        cases henter
    · rw [heq] at h
      cases h

/-! ## Too many missing directories -/

/-- More directories are missing on the way than can be made at once. -/
def IsRemote (t : Tree) (reversed : List Text) : Prop := makeAllLimit < t.makeAllDepth reversed

instance (t : Tree) (reversed : List Text) : Decidable (t.IsRemote reversed) :=
  inferInstanceAs (Decidable (_ < _))

/-- The fault of making directories that are too many. -/
def remoteFault : Fault := .tooDeep "maximum recursion depth exceeded"

theorem ensureDirectory_of_isRemote (h : t.IsRemote reversed) :
    t.ensureDirectory reversed = (t, .error remoteFault) :=
  if_neg (Nat.not_le.mpr h)

theorem ensureDirectory_of_not_isRemote (h : ¬t.IsRemote reversed) :
    t.ensureDirectory reversed = t.makeAll reversed :=
  if_pos (Nat.not_lt.mp h)

theorem ensureDirectory_adds (t : Tree) (reversed : List Text) :
    AddsDirectories t (t.ensureDirectory reversed).1 := by
  by_cases hremote : t.IsRemote reversed
  · rw [ensureDirectory_of_isRemote hremote]
    exact .refl t
  · rw [ensureDirectory_of_not_isRemote hremote]
    exact makeAll_adds t reversed

theorem ensureDirectory_keeps {P : Tree → Prop}
    (hkept : ∀ made path, P made → P (made.makeOrKeep path).1) (ht : P t)
    (reversed : List Text) : P (t.ensureDirectory reversed).1 := by
  by_cases hremote : t.IsRemote reversed
  · rwa [ensureDirectory_of_isRemote hremote]
  · rw [ensureDirectory_of_not_isRemote hremote]
    exact makeAll_keeps hkept ht reversed

/-- What is made is what `makeAll` makes. -/
theorem makeAll_of_ensureDirectory (h : t.ensureDirectory reversed = (t', .ok ())) :
    ¬t.IsRemote reversed ∧ t.makeAll reversed = (t', .ok ()) := by
  by_cases hremote : t.IsRemote reversed
  · rw [ensureDirectory_of_isRemote hremote] at h
    cases h
  · rw [ensureDirectory_of_not_isRemote hremote] at h
    exact ⟨hremote, h⟩

theorem ensureDirectory_ok (hform : t.WellFormed) (hclean : Location.IsClean reversed.reverse)
    (h : t.ensureDirectory reversed = (t', .ok ())) :
    ∃ d, t'.find true (Location.text reversed.reverse) = .ok (d, some .directory) ∧
      NewOnlyAbove t t' d :=
  makeAll_ok hform hclean (makeAll_of_ensureDirectory h).2

end ProseCompiler.Tree
