import ProseCompiler.Proofs.Files.Reached

/-!
# The way that a path takes

`Trail` says where pieces lead from a path if every link is followed where it stands, and
how deep links lie inside one another on the way.  A way has one end and one depth
(`Trail.unique`), and it can be cut at any piece (`Trail.append_iff`).

A lookup that succeeds takes such a way (`trail_of_findFrom`).  The system looks at each
link by the way itself, while a resolution asks for it by the text of the path that it has
come to.  Every such text has to be short enough for that: a path is `InSight` if those of
the links that it meets are.
-/

namespace ProseCompiler.Tree

variable {t : Tree} {p q mid path : Path} {name target : Text} {place : Location}
  {ps rest : List Text} {m n links : Nat}

/-! ## Ways -/

/-- Where a link under a name of a path goes on. -/
def linkStart (p : Path) (target : Text) : Path :=
  if Path.anchorOf target = .relative then p else ⟨.root, []⟩

/-- Pieces lead from a path to another one, with links at most so deep inside one
another. -/
inductive Trail (t : Tree) : Nat → Path → List Text → Path → Prop where
  | arrived {p : Path} : Trail t 0 p [] p
  | idle {n : Nat} {p q : Path} {piece : Text} {rest : List Text}
      (hidle : piece = [] ∨ piece = Path.here) (hrest : Trail t n p rest q) :
      Trail t n p (piece :: rest) q
  | up {n : Nat} {p q : Path} {rest : List Text} (hrest : Trail t n (above p) rest q) :
      Trail t n p (Path.up :: rest) q
  | name {n : Nat} {p q : Path} {name : Text} {rest : List Text} (hname : Path.IsName name)
      (hlink : ∀ target, t.node? (t.placeOf p ++ [name]) ≠ some (.link target))
      (hrest : Trail t n (p.child name) rest q) :
      Trail t n p (name :: rest) q
  | link {m n : Nat} {p mid q : Path} {name target : Text} {rest : List Text}
      (hname : Path.IsName name)
      (hnode : t.node? (t.placeOf p ++ [name]) = some (.link target))
      (hsize : nameSize (p.child name).text ≤ pathLimit)
      (htarget : Trail t m (linkStart p target) (Path.pieces target) mid)
      (hrest : Trail t n mid rest q) :
      Trail t (max (m + 1) n) p (name :: rest) q

theorem not_idle_of_isName (hname : Path.IsName name) : ¬(name = [] ∨ name = Path.here) :=
  not_or.mpr ⟨hname.1, hname.2.1⟩

theorem not_isName_up : ¬Path.IsName Path.up := by decide

/-- A way has one end and one depth. -/
theorem Trail.unique {n' : Nat} {q' : Path} (h : t.Trail n p ps q) (h' : t.Trail n' p ps q') :
    n = n' ∧ q = q' := by
  induction h generalizing n' q' with
  | arrived =>
    cases h'
    exact ⟨rfl, rfl⟩
  | idle hidle _ ih =>
    cases h' with
    | idle _ hrest => exact ih hrest
    | up _ => exact absurd hidle (by decide)
    | name hname _ _ => exact absurd hidle (not_idle_of_isName hname)
    | link hname _ _ _ _ => exact absurd hidle (not_idle_of_isName hname)
  | up _ ih =>
    cases h' with
    | idle hidle _ => exact absurd hidle (by decide)
    | up hrest => exact ih hrest
    | name hname _ _ => exact absurd hname not_isName_up
    | link hname _ _ _ _ => exact absurd hname not_isName_up
  | name hname hlink _ ih =>
    cases h' with
    | idle hidle _ => exact absurd hidle (not_idle_of_isName hname)
    | up _ => exact absurd hname not_isName_up
    | name _ _ hrest => exact ih hrest
    | link _ hnode _ _ _ => exact absurd hnode (hlink _)
  | link hname hnode _ _ _ ihtarget ihrest =>
    cases h' with
    | idle hidle _ => exact absurd hidle (not_idle_of_isName hname)
    | up _ => exact absurd hname not_isName_up
    | name _ hlink _ => exact absurd hnode (hlink _)
    | link _ hnode' _ htarget hrest =>
      rw [hnode, Option.some.injEq, Node.link.injEq] at hnode'
      subst hnode'
      obtain ⟨rfl, rfl⟩ := ihtarget htarget
      obtain ⟨rfl, rfl⟩ := ihrest hrest
      exact ⟨rfl, rfl⟩

/-- A way goes on where another one ends. -/
theorem Trail.append (hstart : t.Trail m p ps mid) (hrest : t.Trail n mid rest q) :
    t.Trail (max m n) p (ps ++ rest) q := by
  induction hstart with
  | arrived =>
    rw [Nat.zero_max]
    exact hrest
  | idle hidle _ ih => exact .idle hidle (ih hrest)
  | up _ ih => exact .up (ih hrest)
  | name hname hlink _ ih => exact .name hname hlink (ih hrest)
  | link hname hnode hsize htarget _ _ ih =>
    rw [Nat.max_assoc]
    exact .link hname hnode hsize htarget (ih hrest)

/-- A way can be cut at any piece. -/
theorem Trail.append_iff : t.Trail n p (ps ++ rest) q ↔
    ∃ m k mid, t.Trail m p ps mid ∧ t.Trail k mid rest q ∧ n = max m k := by
  constructor
  · intro h
    induction ps generalizing p n with
    | nil => exact ⟨0, n, p, .arrived, h, (Nat.zero_max n).symm⟩
    | cons piece ps ih =>
      cases h with
      | idle hidle h =>
        obtain ⟨m, k, mid, hstart, hrest, hn⟩ := ih h
        exact ⟨m, k, mid, .idle hidle hstart, hrest, hn⟩
      | up h =>
        obtain ⟨m, k, mid, hstart, hrest, hn⟩ := ih h
        exact ⟨m, k, mid, .up hstart, hrest, hn⟩
      | name hname hlink h =>
        obtain ⟨m, k, mid, hstart, hrest, hn⟩ := ih h
        exact ⟨m, k, mid, .name hname hlink hstart, hrest, hn⟩
      | link hname hnode hsize htarget h =>
        obtain ⟨m, k, mid, hstart, hrest, rfl⟩ := ih h
        exact ⟨_, k, mid, .link hname hnode hsize htarget hstart, hrest, (Nat.max_assoc _ _ _).symm⟩
  · rintro ⟨m, k, mid, hstart, hrest, rfl⟩
    exact hstart.append hrest

/-! ## Lookups -/

/-- What a lookup that succeeds does with the first of its pieces. -/
inductive Goes (t : Tree) (links : Nat) (place : Location) (found : Location × Option Node) :
    Text → List Text → Prop where
  | idle {piece : Text} {rest : List Text} (hidle : piece = [] ∨ piece = Path.here)
      (h : t.findFrom true links place rest = .ok found) : Goes t links place found piece rest
  | up {rest : List Text} (h : t.findFrom true links (Location.parent place) rest = .ok found) :
      Goes t links place found Path.up rest
  | name {name : Text} {rest : List Text} (hidle : ¬(name = [] ∨ name = Path.here))
      (hup : name ≠ Path.up) (hlink : ∀ target, t.node? (place ++ [name]) ≠ some (.link target))
      (h : t.findFrom true links (place ++ [name]) rest = .ok found) :
      Goes t links place found name rest
  | link {name target : Text} {rest : List Text} {fewer : Nat}
      (hidle : ¬(name = [] ∨ name = Path.here)) (hup : name ≠ Path.up)
      (hlinks : links = fewer + 1) (hnode : t.node? (place ++ [name]) = some (.link target))
      (h : t.findFrom true fewer (behindLink place target) (Path.pieces target ++ rest) =
        .ok found) :
      Goes t links place found name rest

theorem goes_of_findFrom {piece : Text} {found : Location × Option Node}
    (h : t.findFrom true links place (piece :: rest) = .ok found) :
    t.Goes links place found piece rest := by
  have hgoesOn := advance_ne_refused h
  have hplace : ¬t.node? place ≠ some .directory :=
    not_not.mpr (isDirectory_of_advance (List.cons_ne_nil piece rest) hgoesOn)
  by_cases hidle : piece = [] ∨ piece = Path.here
  · have hsame : t.advance true place (piece :: rest) = t.advance true place rest := by
      rw [advance, if_neg hplace, if_pos hidle]
    exact .idle hidle (findFrom_congr hsame ▸ h)
  by_cases hup : piece = Path.up
  · subst hup
    have hsame : t.advance true place (Path.up :: rest) =
        t.advance true (Location.parent place) rest := by
      rw [advance, if_neg hplace, if_neg hidle, if_pos rfl]
    exact .up (findFrom_congr hsame ▸ h)
  have hshort : ¬nameSize piece > nameLimit := fun hlong =>
    hgoesOn .nameTooLong (by rw [advance, if_neg hplace, if_neg hidle, if_neg hup, if_pos hlong])
  cases hnode : t.node? (place ++ [piece]) with
  | none =>
    have hrest : rest = [] := by
      by_contra hrest
      refine hgoesOn .noEntry ?_
      rw [advance, if_neg hplace, if_neg hidle, if_neg hup, if_neg hshort]
      simp only [hnode, if_neg hrest]
    have hsame : t.advance true place (piece :: rest) = t.advance true (place ++ [piece]) rest := by
      rw [advance, if_neg hplace, if_neg hidle, if_neg hup, if_neg hshort, hrest, advance]
      simp only [hnode, if_true]
    exact .name hidle hup (by simp [hnode]) (findFrom_congr hsame ▸ h)
  | some node =>
    cases node with
    | file | directory =>
      have hsame : t.advance true place (piece :: rest) =
          t.advance true (place ++ [piece]) rest := by
        rw [advance, if_neg hplace, if_neg hidle, if_neg hup, if_neg hshort]
        simp only [hnode]
      exact .name hidle hup (by simp [hnode]) (findFrom_congr hsame ▸ h)
    | link target =>
      have hlink : t.advance true place (piece :: rest) = .atLink place target rest := by
        rw [advance, if_neg hplace, if_neg hidle, if_neg hup, if_neg hshort]
        simp [hnode]
      rcases findFrom_cases h with harrived | ⟨_, _, _, fewer, hlinks, hlink', hfewer⟩
      · rw [hlink] at harrived
        cases harrived
      · rw [hlink] at hlink'
        cases hlink'
        exact .link hidle hup hlinks hnode hfewer

/-! ## Links in sight -/

/-- A way from a path along pieces meets a link under the name of another path. -/
inductive Meets (t : Tree) : Path → List Text → Path → Prop where
  | idle {p q : Path} {piece : Text} {rest : List Text}
      (hidle : piece = [] ∨ piece = Path.here) (h : Meets t p rest q) : Meets t p (piece :: rest) q
  | up {p q : Path} {rest : List Text} (h : Meets t (above p) rest q) :
      Meets t p (Path.up :: rest) q
  | name {p q : Path} {name : Text} {rest : List Text} (hname : Path.IsName name)
      (hlink : ∀ target, t.node? (t.placeOf p ++ [name]) ≠ some (.link target))
      (h : Meets t (p.child name) rest q) : Meets t p (name :: rest) q
  | here {p : Path} {name target : Text} {rest : List Text} (hname : Path.IsName name)
      (hnode : t.node? (t.placeOf p ++ [name]) = some (.link target)) :
      Meets t p (name :: rest) (p.child name)
  | behind {p q : Path} {name target : Text} {rest : List Text} (hname : Path.IsName name)
      (hnode : t.node? (t.placeOf p ++ [name]) = some (.link target))
      (h : Meets t (linkStart p target) (Path.pieces target ++ rest) q) :
      Meets t p (name :: rest) q

/-- Where the way of a text starts. -/
def startPath (text : Text) : Path :=
  if Path.anchorOf text = .relative then ⟨.relative, []⟩ else ⟨.root, []⟩

/-- Every link on the way of a path stands under a path that is short enough to be looked
up. -/
def InSight (t : Tree) (path : Path) : Prop :=
  ∀ q, t.Meets (startPath path.text) (Path.pieces path.text) q → nameSize q.text ≤ pathLimit

theorem behindLink_placeOf (p : Path) (target : Text) :
    behindLink (t.placeOf p) target = t.placeOf (linkStart p target) := by
  rw [behindLink, linkStart]
  split <;> rfl

theorem linkStart_isReached (hp : p.IsReached) (target : Text) : (linkStart p target).IsReached := by
  rw [linkStart]
  split
  · exact hp
  · exact .root .nil

/-- A lookup that succeeds takes a way on which no more links lie inside one another than it
follows, if it meets only links whose paths can be looked up. -/
theorem trail_of_findFrom {found : Location × Option Node} (hp : p.IsReached)
    (hslash : ∀ piece ∈ ps, ('/' : CodePoint) ∉ piece)
    (hsight : ∀ q, t.Meets p ps q → nameSize q.text ≤ pathLimit)
    (h : t.findFrom true links (t.placeOf p) ps = .ok found) :
    ∃ n q, n ≤ links ∧ t.Trail n p ps q ∧ q.IsReached ∧ t.placeOf q = found.1 := by
  induction links using Nat.strongRecOn generalizing p ps with
  | _ links ihlinks =>
  induction ps generalizing p with
  | nil =>
    have harrived : t.advance true (t.placeOf p) [] =
        .arrived (t.placeOf p) (t.node? (t.placeOf p)) := rfl
    rw [findFrom_of_arrived harrived, Except.ok.injEq] at h
    exact ⟨0, p, Nat.zero_le links, .arrived, hp, congrArg Prod.fst h⟩
  | cons piece rest ih =>
    have hrest := fun other hother => hslash other (List.mem_cons_of_mem piece hother)
    have hisName (hidle : ¬(piece = [] ∨ piece = Path.here)) (hup : piece ≠ Path.up) :
        Path.IsName piece :=
      ⟨(not_or.mp hidle).1, (not_or.mp hidle).2, hup, hslash piece List.mem_cons_self⟩
    cases goes_of_findFrom h with
    | idle hidle h =>
      obtain ⟨n, q, hn, htrail, hq⟩ := ih hp hrest (fun q hq => hsight q (.idle hidle hq)) h
      exact ⟨n, q, hn, .idle hidle htrail, hq⟩
    | up h =>
      rw [← placeOf_above hp] at h
      obtain ⟨n, q, hn, htrail, hq⟩ := ih hp.above hrest (fun q hq => hsight q (.up hq)) h
      exact ⟨n, q, hn, .up htrail, hq⟩
    | name hidle hup hlink h =>
      have hname := hisName hidle hup
      rw [← placeOf_child hname] at h
      obtain ⟨n, q, hn, htrail, hq⟩ := ih (hp.child hname) hrest
        (fun q hq => hsight q (.name hname hlink hq)) h
      exact ⟨n, q, hn, .name hname hlink htrail, hq⟩
    | @link _ target _ fewer hidle hup hlinks hnode h =>
      have hname := hisName hidle hup
      have hpieces : ∀ other ∈ Path.pieces target ++ rest, ('/' : CodePoint) ∉ other :=
        fun other hother => (List.mem_append.mp hother).elim Path.not_mem_of_mem_pieces (hrest other)
      rw [behindLink_placeOf] at h
      obtain ⟨n, q, hn, htrail, hq⟩ := ihlinks fewer (by omega) (linkStart_isReached hp target)
        hpieces (fun q hq => hsight q (.behind hname hnode hq)) h
      obtain ⟨m, k, mid, htarget, hend, rfl⟩ := Trail.append_iff.mp htrail
      exact ⟨max (m + 1) k, q, by omega,
        .link hname hnode (hsight _ (.here hname hnode)) htarget hend, hq⟩

theorem startPath_isReached (text : Text) : (startPath text).IsReached := by
  rw [startPath]
  split
  · exact .relative 0 .nil
  · exact .root .nil

/-- What stands at the end of a path in sight stands at the end of its way. -/
theorem trail_of_status {node : Node} (h : t.status true path.text = .ok (place, node))
    (hsight : t.InSight path) :
    ∃ n q, n ≤ linkLimit ∧ t.Trail n (startPath path.text) (Path.pieces path.text) q ∧
      q.IsReached ∧ t.placeOf q = place := by
  obtain ⟨-, -, hfind⟩ := find_eq_ok_iff.mp (status_eq_ok_iff.mp h).2
  have hstart : (if Path.anchorOf path.text = .relative then t.workingDirectory else []) =
      t.placeOf (startPath path.text) := by
    rw [startPath]
    split <;> rfl
  rw [hstart] at hfind
  exact trail_of_findFrom (startPath_isReached path.text)
    (fun _ => Path.not_mem_of_mem_pieces) hsight hfind

/-- A way from the root meets a link under the path of its place. -/
theorem Meets.eq_root {l : Location} (h : t.Meets ⟨.root, l⟩ ps q) (hl : l.IsClean) :
    ∃ m target, q = ⟨.root, m⟩ ∧ t.node? m = some (.link target) := by
  generalize hp : (⟨.root, l⟩ : Path) = p at h
  induction h generalizing l with
  | idle _ _ ih => exact ih hl hp
  | up _ ih =>
    subst hp
    exact ih hl.parent (above_root hl).symm
  | name hname _ _ ih =>
    subst hp
    exact ih (hl.concat hname) rfl
  | here hname hnode =>
    subst hp
    rw [placeOf_root hl] at hnode
    exact ⟨_, _, rfl, hnode⟩
  | @behind p q name target rest hname hnode _ ih =>
    subst hp
    rw [linkStart] at ih
    split at ih
    · exact ih hl rfl
    · exact ih .nil rfl

/-- A path from the root is in sight if every link stands at a place whose path is short
enough. -/
theorem inSight_of_short (habsolute : Path.anchorOf path.text ≠ .relative)
    (hshort : ∀ l target, t.node? l = some (.link target) →
      nameSize (Location.text l) ≤ pathLimit) : t.InSight path := by
  intro q hmeets
  rw [startPath, if_neg habsolute] at hmeets
  obtain ⟨l, target, rfl, hnode⟩ := hmeets.eq_root .nil
  exact hshort l target hnode

/-- In a tree of short paths every path from the root is in sight. -/
theorem inSight_of_entries (habsolute : Path.anchorOf path.text ≠ .relative)
    (hshort : ∀ entry ∈ t.entries, nameSize (Location.text entry.1) ≤ pathLimit) :
    t.InSight path := by
  refine inSight_of_short habsolute fun l target hnode => ?_
  have hl : l ≠ [] := by
    rintro rfl
    cases hnode
  exact hshort _ (mem_entries_of_node? hnode hl)

end ProseCompiler.Tree
