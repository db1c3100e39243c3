import ProseCompiler.Proofs.Files.Directories
import ProseCompiler.Proofs.Files.Writing

/-!
# Trees that differ in what one file holds

What a file holds decides nothing but what is read from it.  In two trees that differ
in one file alone, every path leads to the same place (`find_same_or`), stands for the
same place (`resolve_eq`), and can be written to alike; and what is done in both of
them leaves two trees that differ in that file at most.
-/

namespace ProseCompiler.Tree

/-- Two trees are the same, but that a file may hold something else. -/
structure Rewritten (place : Location) (content content' : Bytes) (t t' : Tree) : Prop where
  same_or_file : ∀ l, t'.node? l = t.node? l ∨
    l = place ∧ t.node? l = some (.file content) ∧ t'.node? l = some (.file content')
  workingDirectory_eq : t'.workingDirectory = t.workingDirectory

namespace Rewritten

variable {t t' : Tree} {place p l : Location} {content content' : Bytes} {followLast : Bool}
  {links : Nat} {pieces : List Text} {path : Text}

theorem put (h : Rewritten place content content' t t') (hl : l ≠ []) (e : Node) :
    Rewritten place content content' (t.put l e) (t'.put l e) := by
  refine ⟨fun m => ?_, by simp [h.workingDirectory_eq]⟩
  rw [node?_put hl, node?_put hl]
  by_cases hm : m = l
  · simp [hm]
  · rw [if_neg hm, if_neg hm]
    exact h.same_or_file m

/-- A file that is written in two ways. -/
theorem of_put (t : Tree) (hplace : place ≠ []) :
    Rewritten place content content' (t.put place (.file content))
      (t.put place (.file content')) := by
  refine ⟨fun l => ?_, by simp⟩
  rw [node?_put hplace, node?_put hplace]
  by_cases hl : l = place
  · simp [hl]
  · simp [hl]

/-- What is no file stands in both trees or in neither. -/
theorem node?_iff (h : Rewritten place content content' t t') {n : Option Node}
    (hn : ∀ octets, n ≠ some (.file octets)) : t'.node? l = n ↔ t.node? l = n := by
  rcases h.same_or_file l with hsame | ⟨-, hfile, hfile'⟩
  · rw [hsame]
  · rw [hfile, hfile']
    exact iff_of_false (hn content').symm (hn content).symm

/-! ## Lookups -/

theorem advance (h : Rewritten place content content' t t') :
    t'.advance followLast p pieces = (t.advance followLast p pieces).seenIn t' := by
  have hdirectory (l : Location) : t'.node? l = some .directory ↔ t.node? l = some .directory :=
    h.node?_iff (by simp)
  have hlink (l : Location) (target : Text) :
      t'.node? l = some (.link target) ↔ t.node? l = some (.link target) := h.node?_iff (by simp)
  have hnone (l : Location) : t'.node? l = none ↔ t.node? l = none := h.node?_iff (by simp)
  clear h
  fun_induction Tree.advance t followLast p pieces <;>
    grind [Tree.advance, Advance.seenIn]

theorem findFrom (h : Rewritten place content content' t t') :
    t'.findFrom followLast links p pieces =
      (t.findFrom followLast links p pieces).map fun found => (found.1, t'.node? found.1) := by
  induction links generalizing p pieces with
  | zero =>
    rw [Tree.findFrom, Tree.findFrom, h.advance]
    cases t.advance followLast p pieces <;> rfl
  | succ links ih =>
    rw [Tree.findFrom, Tree.findFrom, h.advance]
    cases t.advance followLast p pieces with
    | arrived | refused => rfl
    | atLink => exact ih

theorem find (h : Rewritten place content content' t t') (followLast : Bool) (path : Text) :
    t'.find followLast path =
      (t.find followLast path).map fun found => (found.1, t'.node? found.1) := by
  rw [Tree.find, Tree.find, h.workingDirectory_eq]
  split
  · rfl
  · split
    · rfl
    · exact h.findFrom

/-- A path leads to the same, or to the file in which the trees differ. -/
theorem find_same_or (h : Rewritten place content content' t t') (followLast : Bool)
    (path : Text) :
    t'.find followLast path = t.find followLast path ∨
      t.find followLast path = .ok (place, some (.file content)) ∧
        t'.find followLast path = .ok (place, some (.file content')) := by
  have hfind' := h.find followLast path
  cases hfind : t.find followLast path with
  | error error =>
    rw [hfind] at hfind'
    exact .inl hfind'
  | ok found =>
    obtain ⟨p, n⟩ := found
    obtain rfl := node?_of_find hfind
    rw [hfind] at hfind'
    rcases h.same_or_file p with hsame | ⟨rfl, hfile, hfile'⟩
    · exact .inl (hfind'.trans (by rw [Except.map, hsame]))
    · rw [hfile] at hfind ⊢
      rw [hfind']
      exact .inr ⟨rfl, by rw [Except.map, hfile']⟩

/-! ## What is asked about a path -/

theorem status_same_or (h : Rewritten place content content' t t') (followLast : Bool)
    (path : Text) :
    t'.status followLast path = t.status followLast path ∨
      t.status followLast path = .ok (place, .file content) ∧
        t'.status followLast path = .ok (place, .file content') := by
  cases hcheck : checkPath path with
  | error fault => exact .inl (by simp [status, hcheck, bind, Except.bind])
  | ok =>
    rcases h.find_same_or followLast path with hsame | ⟨hfile, hfile'⟩
    · exact .inl (by simp [status, hsame])
    · exact .inr ⟨status_eq_ok_iff.mpr ⟨hcheck, hfile⟩, status_eq_ok_iff.mpr ⟨hcheck, hfile'⟩⟩

theorem canReach_eq (h : Rewritten place content content' t t') (path : Text) :
    t'.canReach path = t.canReach path := by
  rcases h.status_same_or true path with hsame | ⟨hfile, hfile'⟩
  · rw [canReach, canReach, hsame]
  · rw [canReach, canReach, hfile, hfile']

theorem canEnter_eq (h : Rewritten place content content' t t') (path : Text) :
    t'.canEnter path = t.canEnter path := by
  rcases h.status_same_or true path with hsame | ⟨hfile, hfile'⟩
  · rw [canEnter, canEnter, hsame]
  · rw [canEnter, canEnter, hfile, hfile']
    rfl

/-! ## What a path stands for -/

theorem resolvePieces_eq (h : Rewritten place content content' t t')
    (follow : Followed → Path → List Text → Except Fault Resolution) (followed : Followed)
    (path : Path) (pieces : List Text) :
    t'.resolvePieces follow followed path pieces = t.resolvePieces follow followed path pieces := by
  induction pieces generalizing followed path with
  | nil => rfl
  | cons piece rest ih =>
    rw [resolvePieces, resolvePieces]
    simp only [ih]
    rcases h.find_same_or false (Path.text ⟨path.anchor, path.parts ++ [piece]⟩) with
      hsame | ⟨hfile, hfile'⟩
    · rw [hsame]
    · rw [hfile, hfile']

theorem realPlace_eq (h : Rewritten place content content' t t') (text : Text) :
    t'.realPlace text = t.realPlace text := by
  have hwithin (depth : Nat) : t'.resolveWithin depth = t.resolveWithin depth := by
    induction depth with
    | zero => rfl
    | succ depth ih =>
      funext followed path pieces
      rw [resolveWithin, resolveWithin, ih]
      exact h.resolvePieces_eq _ followed path pieces
  rw [realPlace, realPlace, hwithin, h.workingDirectory_eq]

/-- A path stands for the same place. -/
theorem resolve_eq (h : Rewritten place content content' t t') (path : Path) :
    t'.resolve path = t.resolve path := by
  rw [resolve, resolve, h.realPlace_eq]
  cases t.realPlace path.text with
  | error fault => rfl
  | ok found =>
    rcases h.status_same_or true (Location.text found) with hsame | ⟨hfile, hfile'⟩
    · simp only [hsame]
    · simp only [hfile, hfile']

/-! ## Changes -/

theorem makeDirectory (h : Rewritten place content content' t t') (path : Text) :
    (∃ fault, t.makeDirectory path = .error fault ∧ t'.makeDirectory path = .error fault) ∨
    ∃ made made', t.makeDirectory path = .ok made ∧ t'.makeDirectory path = .ok made' ∧
      Rewritten place content content' made made' := by
  cases hcheck : checkPath path with
  | error fault =>
    exact .inl ⟨fault, by simp [Tree.makeDirectory, hcheck], by simp [Tree.makeDirectory, hcheck]⟩
  | ok =>
    simp only [Tree.makeDirectory, hcheck]
    rcases h.find_same_or false path with hsame | ⟨hfile, hfile'⟩
    · rw [hsame]
      rcases hfind : t.find false path with error | ⟨p, _ | node⟩
      · exact .inl ⟨_, rfl, rfl⟩
      · have hnone : none = t.node? p := node?_of_find hfind
        have hp : p ≠ [] := by
          rintro rfl
          cases hnone
        exact .inr ⟨_, _, rfl, rfl, h.put hp .directory⟩
      · exact .inl ⟨_, rfl, rfl⟩
    · rw [hfile, hfile']
      exact .inl ⟨_, rfl, rfl⟩

theorem makeOrKeep (h : Rewritten place content content' t t') (path : Text) :
    (t'.makeOrKeep path).2 = (t.makeOrKeep path).2 ∧
      Rewritten place content content' (t.makeOrKeep path).1 (t'.makeOrKeep path).1 := by
  rw [Tree.makeOrKeep, Tree.makeOrKeep, h.canEnter_eq]
  rcases h.makeDirectory path with ⟨fault, hmake, hmake'⟩ | ⟨made, made', hmake, hmake', hmade⟩
  · rw [hmake, hmake']
    exact ⟨rfl, h⟩
  · rw [hmake, hmake']
    exact ⟨rfl, hmade⟩

theorem makeAll (h : Rewritten place content content' t t') (reversed : List Text) :
    (t'.makeAll reversed).2 = (t.makeAll reversed).2 ∧
      Rewritten place content content' (t.makeAll reversed).1
        (t'.makeAll reversed).1 := by
  induction reversed with
  | nil => exact ⟨rfl, h⟩
  | cons name above ih =>
    obtain ⟨hresult, hmade⟩ := ih
    rw [Tree.makeAll, Tree.makeAll, h.canReach_eq]
    split
    · exact h.makeOrKeep _
    · rcases hensure : t.makeAll above with ⟨made, fault | _⟩ <;>
        rcases hensure' : t'.makeAll above with ⟨made', fault' | _⟩ <;>
        rw [hensure, hensure'] at hresult hmade <;> cases hresult
      · simp only
        split
        · exact hmade.makeOrKeep _
        · exact ⟨rfl, hmade⟩
      · exact hmade.makeOrKeep _

theorem makeAllDepth_eq (h : Rewritten place content content' t t') (reversed : List Text) :
    t'.makeAllDepth reversed = t.makeAllDepth reversed := by
  induction reversed with
  | nil => rfl
  | cons name above ih => rw [makeAllDepth, makeAllDepth, h.canReach_eq, ih]

theorem ensureDirectory (h : Rewritten place content content' t t') (reversed : List Text) :
    (t'.ensureDirectory reversed).2 = (t.ensureDirectory reversed).2 ∧
      Rewritten place content content' (t.ensureDirectory reversed).1
        (t'.ensureDirectory reversed).1 := by
  rw [Tree.ensureDirectory, Tree.ensureDirectory, h.makeAllDepth_eq]
  split
  · exact h.makeAll reversed
  · exact ⟨rfl, h⟩

/-- The same place can be written to. -/
theorem writable (h : Rewritten place content content' t t') (path : Text) :
    (∃ fault, t.writable path = .error fault ∧ t'.writable path = .error fault) ∨
    ∃ p old old', p ≠ [] ∧ t.writable path = .ok (p, old) ∧ t'.writable path = .ok (p, old') := by
  cases hcheck : checkPath path with
  | error fault =>
    exact .inl ⟨fault, by simp [Tree.writable, hcheck], by simp [Tree.writable, hcheck]⟩
  | ok =>
    rcases h.find_same_or true path with hsame | ⟨hfile, hfile'⟩
    · have hsame' : t'.writable path = t.writable path := by
        rw [Tree.writable, Tree.writable, hcheck, hsame]
      rw [hsame']
      rcases hopen : t.writable path with fault | ⟨p, old⟩
      · exact .inl ⟨fault, rfl, rfl⟩
      · exact .inr ⟨p, old, old, (isLeaf_of_writable hopen).ne_nil, rfl, rfl⟩
    · have hopen := writable_eq_ok_iff.mpr ⟨hcheck, .inr hfile⟩
      have hopen' := writable_eq_ok_iff.mpr ⟨hcheck, .inr hfile'⟩
      exact .inr ⟨place, content, content', (isLeaf_of_writable hopen).ne_nil, hopen, hopen'⟩

theorem writeText (h : Rewritten place content content' t t') (path text : Text) :
    (t'.writeText path text).2 = (t.writeText path text).2 ∧
      Rewritten place content content' (t.writeText path text).1 (t'.writeText path text).1 := by
  rw [Tree.writeText, Tree.writeText]
  rcases h.writable path with ⟨fault, hopen, hopen'⟩ | ⟨p, old, old', hp, hopen, hopen'⟩
  · rw [hopen, hopen']
    exact ⟨rfl, h⟩
  · rw [hopen, hopen']
    cases Utf8.encode text with
    | error fault => exact ⟨rfl, h.put hp _⟩
    | ok octets => exact ⟨rfl, h.put hp _⟩

end Rewritten

end ProseCompiler.Tree
