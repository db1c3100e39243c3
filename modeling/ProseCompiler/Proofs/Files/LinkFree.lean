import ProseCompiler.Proofs.Files.Directories

/-!
# Trees without links

Where no link stands anywhere, a place is found by its names alone.  A lookup
takes one `step` for each name (`find_concat_of_linkFree`), so it arrives at the
place that it was asked for, and whether the last link would be followed makes no
difference.

What a path stands for is then computed without a look at the tree:
`resolve_congr` says that two such trees resolve every path alike.
-/

namespace ProseCompiler.Tree

/-- No link stands anywhere. -/
def LinkFree (t : Tree) : Prop := ∀ l target, t.node? l ≠ some (.link target)

variable {t t' : Tree} {followLast : Bool} {links : Nat} {place p l d : Location}
  {pieces ps rest : List Text} {n : Option Node} {e : Node} {path name target : Text}

namespace LinkFree

/-- Only the entries of a tree have to be looked at. -/
theorem of_entries (hentries : ∀ entry ∈ t.entries, ∀ target, entry.2 ≠ .link target) :
    t.LinkFree := by
  intro l target hnode
  by_cases hl : l = []
  · rw [hl, node?_nil] at hnode
    cases hnode
  · rw [node?_of_ne_nil hl, List.lookup_eq_some_iff] at hnode
    obtain ⟨before, after, heq, -⟩ := hnode
    exact hentries (l, .link target) (by rw [heq]; simp) target rfl

theorem put (hfree : t.LinkFree) (hl : l ≠ []) (he : ∀ target, e ≠ .link target) :
    (t.put l e).LinkFree := by
  intro m target hnode
  rw [node?_put hl] at hnode
  split at hnode
  · cases hnode
    exact he target rfl
  · exact hfree m target hnode

end LinkFree

theorem AddsDirectories.linkFree (hadds : AddsDirectories t t') (hfree : t.LinkFree) :
    t'.LinkFree := by
  intro l target hnode
  rcases hadds.same_or_new l with hsame | ⟨-, hnew⟩
  · exact hfree l target (hsame ▸ hnode)
  · rw [hnew] at hnode
    cases hnode

/-! ## Lookups -/

theorem advance_ne_atLink (hfree : t.LinkFree) :
    t.advance followLast place pieces ≠ .atLink d target rest := by
  fun_induction advance t followLast place pieces <;> grind [LinkFree]

/-- Where a name leads to from where a lookup has come to. -/
def step (t : Tree) (name : Text) : Location × Option Node →
    Except SystemError (Location × Option Node)
  | (d, some .directory) =>
    if nameSize name > nameLimit then .error .nameTooLong
    else .ok (d ++ [name], t.node? (d ++ [name]))
  | (_, some _) => .error .notDirectory
  | (_, none) => .error .noEntry

/-- Where a lookup comes to if no link stands on its way. -/
def Advance.found? : Advance → Except SystemError (Location × Option Node)
  | .arrived p n => .ok (p, n)
  | .atLink .. => .error .tooManyLinks
  | .refused error => .error error

theorem findFrom_of_linkFree (hfree : t.LinkFree) :
    t.findFrom followLast links place pieces = (t.advance followLast place pieces).found? := by
  unfold findFrom
  cases hadvance : t.advance followLast place pieces with
  | arrived | refused => rfl
  | atLink d target rest => exact absurd hadvance (advance_ne_atLink hfree)

/-- One more name is one more step. -/
theorem advance_concat (hfree : t.LinkFree) (hplace : t.node? place ≠ none)
    (hclean : Location.IsClean (ps ++ [name])) :
    (t.advance followLast place (ps ++ [name])).found? =
      (t.advance true place ps).found? >>= t.step name := by
  have hname := hclean.last
  fun_induction advance t true place ps with
  | case1 place =>
    rw [List.nil_append]
    cases hnode : t.node? place with
    | none => exact absurd hnode hplace
    | some node =>
      cases node with
      | link target => exact absurd hnode (hfree place target)
      | file content => simp [advance, hnode, Advance.found?, step, bind, Except.bind]
      | directory =>
        rw [advance_name hname hnode (fun _ => hfree _)]
        by_cases hlong : nameSize name > nameLimit <;>
          simp [hlong, Advance.found?, step, bind, Except.bind]
  | case2 place piece rest hother =>
    simp [advance, hother, Advance.found?, bind, Except.bind]
  | case3 place piece rest hdirectory hidle ih =>
    obtain ⟨hempty, hhere, -, -⟩ := hclean piece List.mem_cons_self
    exact absurd hidle (not_or.mpr ⟨hempty, hhere⟩)
  | case4 place rest hdirectory hidle ih =>
    exact absurd rfl (hclean Path.up List.mem_cons_self).2.2.1
  | case5 place piece rest hdirectory hidle hup hlong =>
    simp [advance, hdirectory, hidle, hup, hlong, Advance.found?, bind, Except.bind]
  | case6 place piece rest hdirectory hidle hup hshort next target hnode hlast =>
    exact absurd hnode (hfree next target)
  | case7 place piece rest hdirectory hidle hup hshort next target hnode hlast =>
    exact absurd hnode (hfree next target)
  | case8 place piece rest hdirectory hidle hup hshort next node hother hnode ih =>
    have hsome : t.node? next ≠ none := by simp [hnode]
    have hadvance : t.advance followLast place (piece :: (rest ++ [name])) =
        t.advance followLast next (rest ++ [name]) := by
      rw [advance, if_neg hdirectory, if_neg hidle, if_neg hup, if_neg hshort]
      grind
    rw [List.cons_append, hadvance]
    exact ih hsome (fun other hother => hclean other (List.mem_cons_of_mem piece hother))
  | case9 place piece hdirectory hidle hup hshort next hnone =>
    simp [advance, hdirectory, hidle, hup, hshort, next, hnone, Advance.found?, bind, Except.bind,
      step]
  | case10 place piece rest hdirectory hidle hup hshort next hnone hlast =>
    simp [advance, hdirectory, hidle, hup, hshort, next, hnone, Advance.found?, bind, Except.bind]

/-- A place is found one step behind the place above it. -/
theorem find_concat_of_linkFree (hfree : t.LinkFree) (hclean : (l ++ [name]).IsClean) :
    t.find followLast (Location.text (l ++ [name])) =
      if nameSize (Location.text (l ++ [name])) > pathLimit then .error .nameTooLong
      else t.find true (Location.text l) >>= t.step name := by
  rw [find_text hclean]
  split
  · rfl
  · next hshort =>
    have habove := nameSize_text_concat l name
    rw [find_text hclean.of_append, if_neg (by omega), findFrom_of_linkFree hfree,
      findFrom_of_linkFree hfree]
    exact advance_concat hfree (by simp) hclean

/-- What a step arrives at is the name in a directory. -/
theorem step_eq_ok_iff {found : Location × Option Node} :
    t.step name (d, n) = .ok found ↔
      n = some .directory ∧ nameSize name ≤ nameLimit ∧
        found = (d ++ [name], t.node? (d ++ [name])) := by
  rcases n with _ | content | target | _
  · simp [step]
  · simp [step]
  · simp [step]
  · by_cases hlong : nameSize name > nameLimit
    · simp [step, hlong, Nat.not_le.mpr hlong]
    · simp [step, hlong, Nat.not_lt.mp hlong, eq_comm]

/-- A lookup arrives at the place that it was asked for. -/
theorem find_place (hfree : t.LinkFree) (hclean : l.IsClean)
    (h : t.find followLast (Location.text l) = .ok (p, n)) : p = l := by
  induction l using List.reverseRecOn generalizing followLast p n with
  | nil =>
    rw [find_text_nil] at h
    cases h
    rfl
  | append_singleton l name ih =>
    rw [find_concat_of_linkFree hfree hclean] at h
    split at h
    · cases h
    · cases habove : t.find true (Location.text l) with
      | error error =>
        rw [habove] at h
        cases h
      | ok found =>
        obtain ⟨d, node⟩ := found
        rw [habove] at h
        obtain ⟨-, -, heq⟩ := step_eq_ok_iff.mp h
        cases heq
        rw [ih hclean.of_append habove]

/-- A lookup need not be told whether to follow the last link. -/
theorem find_followLast (hfree : t.LinkFree) (hclean : l.IsClean)
    (followLast followOther : Bool) :
    t.find followLast (Location.text l) = t.find followOther (Location.text l) := by
  cases l using List.reverseRecOn with
  | nil => rw [find_text_nil, find_text_nil]
  | append_singleton above name =>
    rw [find_concat_of_linkFree hfree hclean, find_concat_of_linkFree hfree hclean]

/-! ## Resolution -/

/-- Why a lookup can be refused where there are no links. -/
theorem find_error {error : SystemError} (hfree : t.LinkFree)
    (h : t.find followLast path = .error error) :
    error = .noEntry ∨ error = .nameTooLong ∨ error = .notDirectory := by
  rw [find] at h
  split at h
  · cases h
    exact .inl rfl
  · split at h
    · cases h
      exact .inr (.inl rfl)
    · simp only [findFrom_of_linkFree hfree] at h
      cases hadvance : t.advance followLast
          (if Path.anchorOf path = .relative then t.workingDirectory else [])
          (Path.pieces path) with
      | arrived p n =>
        rw [hadvance] at h
        cases h
      | atLink d target rest => exact absurd hadvance (advance_ne_atLink hfree)
      | refused refusal =>
        rw [hadvance] at h
        cases h
        exact advance_refused hadvance

/-- Every piece that is not idle and does not lead up is a plain name. -/
theorem resolvePieces_cons (hfree : t.LinkFree)
    (follow : Followed → Path → List Text → Except Fault Resolution) (followed : Followed)
    (start : Path) (piece : Text) (rest : List Text) :
    t.resolvePieces follow followed start (piece :: rest) =
      if piece = [] ∨ piece = Path.here then t.resolvePieces follow followed start rest
      else if piece = Path.up then t.resolvePieces follow followed (above start) rest
      else
        checkPath (Path.text ⟨start.anchor, start.parts ++ [piece]⟩) >>= fun _ =>
          t.resolvePieces follow followed ⟨start.anchor, start.parts ++ [piece]⟩ rest := by
  rw [resolvePieces]
  split
  · rfl
  · split
    · rfl
    · cases hcheck : checkPath (Path.text ⟨start.anchor, start.parts ++ [piece]⟩) with
      | error fault => simp only [hcheck, bind, Except.bind]
      | ok =>
        simp only [hcheck, bind, Except.bind]
        split
        · next place target hfind =>
          exact absurd (node?_of_find hfind).symm (hfree place target)
        · rfl

theorem resolvePieces_congr (hfree : t.LinkFree) (hfree' : t'.LinkFree)
    (follow follow' : Followed → Path → List Text → Except Fault Resolution) (followed : Followed)
    (start : Path) (pieces : List Text) :
    t.resolvePieces follow followed start pieces =
      t'.resolvePieces follow' followed start pieces := by
  induction pieces generalizing start with
  | nil => rfl
  | cons piece rest ih =>
    simp only [resolvePieces_cons hfree, resolvePieces_cons hfree', ih]

theorem resolveWithin_congr (hfree : t.LinkFree) (hfree' : t'.LinkFree) (depth : Nat)
    (followed : Followed) (start : Path) (pieces : List Text) :
    t.resolveWithin depth followed start pieces =
      t'.resolveWithin depth followed start pieces := by
  cases depth with
  | zero => rfl
  | succ depth => exact resolvePieces_congr hfree hfree' _ _ followed start pieces

theorem realPlace_congr (hfree : t.LinkFree) (hfree' : t'.LinkFree)
    (hworking : t'.workingDirectory = t.workingDirectory) (path : Text) :
    t'.realPlace path = t.realPlace path := by
  simp only [realPlace, hworking, resolveWithin_congr hfree' hfree]

theorem checkPath_error {fault : Fault} (h : checkPath path = .error fault) (error : SystemError)
    (other : Text) : fault ≠ .system error other := by
  simp only [checkPath] at h
  split at h
  · cases h
    simp
  · split at h
    · cases h
      simp
    · cases h

/-- A resolved path is a place that the system can be asked about. -/
theorem resolve_of_linkFree (hfree : t.LinkFree) (path : Path) :
    t.resolve path = t.realPlace path.text >>= fun place =>
      checkPath (Location.text place) >>= fun _ => .ok place := by
  rw [resolve]
  cases t.realPlace path.text with
  | error fault => rfl
  | ok place =>
    simp only [bind, Except.bind, status]
    cases hcheck : checkPath (Location.text place) with
    | error fault =>
      have hsystem := checkPath_error hcheck
      cases fault <;> simp_all
    | ok =>
      simp only
      cases hfind : t.find true (Location.text place) with
      | error error =>
        rcases find_error hfree hfind with rfl | rfl | rfl <;> rfl
      | ok found =>
        obtain ⟨p, n⟩ := found
        cases n <;> simp

/-- Trees without links resolve every path alike. -/
theorem resolve_congr (hfree : t.LinkFree) (hfree' : t'.LinkFree)
    (hworking : t'.workingDirectory = t.workingDirectory) (path : Path) :
    t'.resolve path = t.resolve path := by
  rw [resolve_of_linkFree hfree, resolve_of_linkFree hfree',
    realPlace_congr hfree hfree' hworking]

end ProseCompiler.Tree
