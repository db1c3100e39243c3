import ProseCompiler.Files.Lookup
import ProseCompiler.Proofs.Encoding.Utf8
import ProseCompiler.Proofs.Files.Tree

/-!
# What lookups find

There are five groups of facts, each shown first for `advance`, then for
`findFrom` by induction on the links, and last for `find`.

* What a lookup hands back is what stands at the place where it arrives.
* A lookup that does not stop at a link at the end goes on as if it were told to
  follow it.
* A lookup of a path with something behind it goes through the directory that
  the path leads to.  `find_concat` says so of the text of a location.
* Nothing is looked up differently because of what was put where neither a
  directory nor a link stood, except at that place itself.
* A lookup is refused for one of four reasons, and a test of what stands at a
  path fails for one of them only: something is too long.
-/

namespace ProseCompiler.Tree

variable {t : Tree} {followLast : Bool} {links : Nat} {place p l d : Location}
  {pieces ps rest : List Text} {n : Option Node} {e : Node} {path name : Text}

/-! ## Arriving -/

theorem node?_of_advance (h : t.advance followLast place pieces = .arrived p n) :
    n = t.node? p := by
  fun_induction advance t followLast place pieces <;> grind

/-- Where a lookup goes on behind a link. -/
def behindLink (directory : Location) (target : Text) : Location :=
  if Path.anchorOf target = .relative then directory else []

theorem findFrom_of_arrived (h : t.advance followLast place pieces = .arrived p n) :
    t.findFrom followLast links place pieces = .ok (p, n) := by
  unfold findFrom
  rw [h]

theorem findFrom_of_atLink {target : Text}
    (h : t.advance followLast place pieces = .atLink d target rest) :
    t.findFrom followLast (links + 1) place pieces =
      t.findFrom followLast links (behindLink d target) (Path.pieces target ++ rest) := by
  rw [findFrom, h]
  rfl

/-- A lookup that succeeds arrives, or follows a link and succeeds from there. -/
theorem findFrom_cases {found : Location × Option Node}
    (h : t.findFrom followLast links place pieces = .ok found) :
    t.advance followLast place pieces = .arrived found.1 found.2 ∨
      ∃ d target rest fewer, links = fewer + 1 ∧
        t.advance followLast place pieces = .atLink d target rest ∧
        t.findFrom followLast fewer (behindLink d target) (Path.pieces target ++ rest) =
          .ok found := by
  cases hadvance : t.advance followLast place pieces with
  | arrived p n =>
    rw [findFrom_of_arrived hadvance] at h
    cases h
    exact .inl rfl
  | atLink d target rest =>
    cases links with
    | zero =>
      rw [findFrom, hadvance] at h
      cases h
    | succ fewer =>
      rw [findFrom_of_atLink hadvance] at h
      exact .inr ⟨d, target, rest, fewer, rfl, rfl, h⟩
  | refused error =>
    unfold findFrom at h
    rw [hadvance] at h
    cases h

theorem node?_of_findFrom (h : t.findFrom followLast links place pieces = .ok (p, n)) :
    n = t.node? p := by
  induction links using Nat.strongRecOn generalizing place pieces with
  | _ links ih =>
    rcases findFrom_cases h with harrived | ⟨_, _, _, fewer, rfl, -, hfewer⟩
    · exact node?_of_advance harrived
    · exact ih fewer (Nat.lt_succ_self fewer) hfewer

/-- A lookup that succeeds is one of a text that is neither empty nor too long. -/
theorem find_eq_ok_iff {found : Location × Option Node} :
    t.find followLast path = .ok found ↔
      path ≠ [] ∧ nameSize path ≤ pathLimit ∧
        t.findFrom followLast linkLimit
          (if Path.anchorOf path = .relative then t.workingDirectory else [])
          (Path.pieces path) = .ok found := by
  rw [find]
  by_cases hempty : path = []
  · simp [hempty]
  · rw [if_neg hempty]
    by_cases hlong : nameSize path > pathLimit
    · simp [hlong, Nat.not_le.mpr hlong]
    · rw [if_neg hlong]
      simp [hempty, Nat.not_lt.mp hlong]

/-- A lookup hands back what stands at the place where it arrives. -/
theorem node?_of_find (h : t.find followLast path = .ok (p, n)) : n = t.node? p :=
  node?_of_findFrom (find_eq_ok_iff.mp h).2.2

/-! ## Following the last link or not -/

theorem advance_true_of_arrived (h : t.advance false place pieces = .arrived p n)
    (hn : ∀ target, n ≠ some (.link target)) :
    t.advance true place pieces = .arrived p n := by
  fun_induction advance t false place pieces <;> grind [advance]

theorem advance_true_of_atLink {target : Text}
    (h : t.advance false place pieces = .atLink d target rest) :
    t.advance true place pieces = .atLink d target rest := by
  fun_induction advance t false place pieces <;> grind [advance]

theorem findFrom_true_of_false (h : t.findFrom false links place pieces = .ok (p, n))
    (hn : ∀ target, n ≠ some (.link target)) :
    t.findFrom true links place pieces = .ok (p, n) := by
  induction links using Nat.strongRecOn generalizing place pieces with
  | _ links ih =>
    rcases findFrom_cases h with harrived | ⟨_, _, _, fewer, rfl, hlink, hfewer⟩
    · exact findFrom_of_arrived (advance_true_of_arrived harrived hn)
    · rw [findFrom_of_atLink (advance_true_of_atLink hlink)]
      exact ih fewer (Nat.lt_succ_self fewer) hfewer

/-- A lookup that does not end at a link is the same if it follows one there. -/
theorem find_true_of_false (h : t.find false path = .ok (p, n))
    (hn : ∀ target, n ≠ some (.link target)) : t.find true path = .ok (p, n) := by
  rw [find_eq_ok_iff] at h ⊢
  exact ⟨h.1, h.2.1, findFrom_true_of_false h.2.2 hn⟩

/-! ## Going through a directory -/

/-- Where a lookup comes to after `rest` more pieces. -/
def Advance.onward (t : Tree) (followLast : Bool) (rest : List Text) : Advance → Advance
  | .arrived place _ => t.advance followLast place rest
  | .atLink directory target more => .atLink directory target (more ++ rest)
  | .refused error => .refused error

theorem advance_append (hrest : rest ≠ [])
    (h : ∀ error, t.advance followLast place (ps ++ rest) ≠ .refused error) :
    t.advance followLast place (ps ++ rest) =
      (t.advance true place ps).onward t followLast rest := by
  fun_induction advance t true place ps <;>
    grind [advance, Advance.onward, List.append_eq_nil_iff]

theorem isDirectory_of_advance (hpieces : pieces ≠ [])
    (h : ∀ error, t.advance followLast place pieces ≠ .refused error) :
    t.node? place = some .directory := by
  obtain ⟨piece, rest, rfl⟩ := List.exists_cons_of_ne_nil hpieces
  by_contra hplace
  exact h .notDirectory (by rw [advance, if_pos hplace])

theorem advance_ne_refused {found : Location × Option Node}
    (h : t.findFrom followLast links place pieces = .ok found) (error : SystemError) :
    t.advance followLast place pieces ≠ .refused error := by
  rcases findFrom_cases h with harrived | ⟨_, _, _, _, -, hlink, -⟩
  · simp [harrived]
  · simp [hlink]

theorem findFrom_congr (h : t.advance followLast place ps = t.advance followLast p pieces) :
    t.findFrom followLast links place ps = t.findFrom followLast links p pieces := by
  unfold findFrom
  rw [h]

/-- A lookup with something behind a path goes through the directory that the
path leads to. -/
theorem findFrom_append {found : Location × Option Node} (hrest : rest ≠ [])
    (h : t.findFrom followLast links place (ps ++ rest) = .ok found) :
    ∃ d fewer, t.findFrom true links place ps = .ok (d, some .directory) ∧
      t.findFrom followLast fewer d rest = .ok found := by
  induction links using Nat.strongRecOn generalizing place ps with
  | _ links ih =>
    have hgoesOn := advance_ne_refused h
    have honward := advance_append hrest hgoesOn
    cases hadvance : t.advance true place ps with
    | arrived d n =>
      have hsame : t.advance followLast place (ps ++ rest) = t.advance followLast d rest := by
        rw [honward, hadvance]
        rfl
      have hd := isDirectory_of_advance hrest (fun error => hsame ▸ hgoesOn error)
      have hn := node?_of_advance hadvance
      rw [findFrom_congr hsame] at h
      exact ⟨d, links, by rw [findFrom_of_arrived hadvance, hn, hd], h⟩
    | atLink d target more =>
      have hlink : t.advance followLast place (ps ++ rest) = .atLink d target (more ++ rest) := by
        rw [honward, hadvance]
        rfl
      rcases findFrom_cases h with harrived | ⟨_, _, _, fewer, rfl, hlink', hfewer⟩
      · rw [hlink] at harrived
        cases harrived
      · rw [hlink] at hlink'
        cases hlink'
        rw [← List.append_assoc] at hfewer
        rw [findFrom_of_atLink hadvance]
        exact ih fewer (Nat.lt_succ_self fewer) hfewer
    | refused error =>
      rw [hadvance] at honward
      exact absurd honward (hgoesOn error)

theorem advance_append_of_directory (h : t.advance true place ps = .arrived d (some .directory)) :
    t.advance followLast place (ps ++ rest) = t.advance followLast d rest := by
  fun_induction advance t true place ps <;> grind [advance]

theorem advance_append_of_link {target : Text} {more : List Text} (hrest : rest ≠ [])
    (h : t.advance true place ps = .atLink d target more) :
    t.advance followLast place (ps ++ rest) = .atLink d target (more ++ rest) := by
  fun_induction advance t true place ps <;> grind [advance, List.append_eq_nil_iff]

/-- A lookup goes on from the directory that the start of its path leads to, with
as many links left whether it follows the last one or not. -/
theorem findFrom_append_of_directory
    (h : t.findFrom true links place ps = .ok (d, some .directory)) :
    ∃ fewer, ∀ followLast rest, rest ≠ [] →
      t.findFrom followLast links place (ps ++ rest) = t.findFrom followLast fewer d rest := by
  induction links using Nat.strongRecOn generalizing place ps with
  | _ links ih =>
    rcases findFrom_cases h with harrived | ⟨_, _, _, fewer, rfl, hlink, hfewer⟩
    · exact ⟨links, fun _ _ _ => findFrom_congr (advance_append_of_directory harrived)⟩
    · obtain ⟨left, hleft⟩ := ih fewer (Nat.lt_succ_self fewer) hfewer
      refine ⟨left, fun followLast rest hrest => ?_⟩
      rw [findFrom_of_atLink (advance_append_of_link hrest hlink), ← List.append_assoc]
      exact hleft followLast rest hrest

theorem advance_name (hname : Path.IsName name) (hd : t.node? d = some .directory)
    (hlink : followLast = true → ∀ target, t.node? (d ++ [name]) ≠ some (.link target)) :
    t.advance followLast d [name] =
      if nameSize name > nameLimit then .refused .nameTooLong
      else .arrived (d ++ [name]) (t.node? (d ++ [name])) := by
  obtain ⟨hempty, hhere, hup, -⟩ := hname
  have hidle : ¬(name = [] ∨ name = Path.here) := not_or.mpr ⟨hempty, hhere⟩
  rw [advance, if_neg (not_not.mpr hd), if_neg hidle, if_neg hup]
  cases hnode : t.node? (d ++ [name]) with
  | none => simp [hnode]
  | some node =>
    cases node with
    | file | directory => simp [advance, hnode]
    | link target =>
      cases followLast with
      | false => simp [hnode]
      | true => exact absurd hnode (hlink rfl target)

/-- A name leads from a directory to the entry of that name, unless that is a
link that has to be followed. -/
theorem findFrom_name (hname : Path.IsName name)
    (hlink : followLast = true → ∀ target, t.node? (d ++ [name]) ≠ some (.link target))
    (h : t.findFrom followLast links d [name] = .ok (p, n)) :
    p = d ++ [name] ∧ n = t.node? (d ++ [name]) := by
  have hgoesOn := advance_ne_refused h
  have hd := isDirectory_of_advance (List.cons_ne_nil _ _) hgoesOn
  have hadvance := advance_name hname hd hlink
  by_cases hlong : nameSize name > nameLimit
  · rw [if_pos hlong] at hadvance
    exact absurd hadvance (hgoesOn _)
  · rw [if_neg hlong] at hadvance
    rw [findFrom_of_arrived hadvance] at h
    cases h
    exact ⟨rfl, rfl⟩

/-! ## Lookups after something was put -/

/-- The result of a lookup with what a tree holds where it arrived. -/
def Advance.seenIn (t : Tree) : Advance → Advance
  | .arrived place _ => .arrived place (t.node? place)
  | other => other

/-- A place that no lookup goes through. -/
def IsLeaf (t : Tree) (l : Location) : Prop :=
  t.node? l ≠ some .directory ∧ ∀ target, t.node? l ≠ some (.link target)

theorem IsLeaf.ne_nil (hleaf : t.IsLeaf l) : l ≠ [] := by
  rintro rfl
  exact hleaf.1 rfl

theorem advance_put (hleaf : t.IsLeaf l) (he : ∀ target, e ≠ .link target)
    (h : ∀ error, t.advance followLast place pieces ≠ .refused error) :
    (t.put l e).advance followLast place pieces =
      (t.advance followLast place pieces).seenIn (t.put l e) := by
  have hl := hleaf.ne_nil
  obtain ⟨hdirectory, hlink⟩ := hleaf
  fun_induction advance t followLast place pieces <;> grind [advance, node?_put, Advance.seenIn]

theorem findFrom_put (hleaf : t.IsLeaf l) (he : ∀ target, e ≠ .link target)
    (h : t.findFrom followLast links place pieces = .ok (p, n)) :
    (t.put l e).findFrom followLast links place pieces = .ok (p, (t.put l e).node? p) := by
  induction links using Nat.strongRecOn generalizing place pieces with
  | _ links ih =>
    have hput := advance_put hleaf he (advance_ne_refused h)
    rcases findFrom_cases h with harrived | ⟨_, _, _, fewer, rfl, hlink, hfewer⟩
    · rw [harrived] at hput
      exact findFrom_of_arrived hput
    · rw [hlink] at hput
      rw [findFrom_of_atLink hput]
      exact ih fewer (Nat.lt_succ_self fewer) hfewer

/-- What is put where no lookup goes through is found if it is looked for, and
every other lookup is as before. -/
theorem find_put (hleaf : t.IsLeaf l) (he : ∀ target, e ≠ .link target)
    (h : t.find followLast path = .ok (p, n)) :
    (t.put l e).find followLast path = .ok (p, (t.put l e).node? p) := by
  rw [find_eq_ok_iff] at h ⊢
  rw [workingDirectory_put]
  exact ⟨h.1, h.2.1, findFrom_put hleaf he h.2.2⟩

/-! ## Texts that can be looked up -/

theorem nameSize_append_ge (s u : Text) : nameSize s ≤ nameSize (s ++ u) := by
  rw [nameSize, nameSize, List.foldl_append]
  generalize s.foldl _ 0 = size
  induction u generalizing size with
  | nil => exact Nat.le_refl _
  | cons c u ih => exact Nat.le_trans (Nat.le_add_right _ _) (ih _)

theorem checkPath_eq_ok_iff :
    checkPath path = .ok () ↔
      (∀ c ∈ path, (c.isSurrogate && !(0xDC80 ≤ c.val && c.val ≤ 0xDCFF)) = false) ∧
        (path.any fun c => c.val == 0) = false := by
  rw [← @firstStretch?_eq_none_iff _ 0]
  simp only [checkPath]
  split
  · next hstretch =>
    rw [hstretch]
    simp only [reduceCtorEq, false_and]
  · next hstretch =>
    rw [hstretch]
    cases path.any fun c => c.val == 0 <;> simp

/-- The system can be asked about the start of any text that it can be asked
about. -/
theorem checkPath_of_longer {s u : Text} (hstart : s <+: u) (h : checkPath u = .ok ()) :
    checkPath s = .ok () := by
  obtain ⟨rest, rfl⟩ := hstart
  rw [checkPath_eq_ok_iff] at h ⊢
  refine ⟨fun c hc => h.1 c (List.mem_append_left rest hc), ?_⟩
  have hany := h.2
  rw [List.any_append, Bool.or_eq_false_iff] at hany
  exact hany.1

/-! ## The text of a location -/

/-- A clean location is looked up by its names. -/
theorem find_text (hclean : l.IsClean) :
    t.find followLast (Location.text l) =
      if nameSize (Location.text l) > pathLimit then .error .nameTooLong
      else t.findFrom followLast linkLimit [] l := by
  have hidle : ∀ rest, t.advance followLast [] ([] :: rest) = t.advance followLast [] rest :=
    fun rest => by simp [advance]
  have hpieces : t.findFrom followLast linkLimit [] (Path.pieces (Location.text l)) =
      t.findFrom followLast linkLimit [] l := by
    apply findFrom_congr
    by_cases hl : l = []
    · rw [hl, Location.pieces_text_nil, hidle, hidle]
    · rw [Location.pieces_text hclean hl, hidle]
  have hne : Location.text l ≠ [] := List.cons_ne_nil _ _
  simp only [find, if_neg hne, Location.anchorOf_text hclean, reduceCtorEq, if_false, hpieces]

theorem find_text_nil (t : Tree) :
    t.find followLast (Location.text []) = .ok ([], some .directory) := by
  rw [find_text .nil, if_neg (by decide)]
  rfl

theorem nameSize_text_concat (l : Location) (name : Text) :
    nameSize (Location.text l) ≤ nameSize (Location.text (l ++ [name])) := by
  obtain ⟨rest, hrest⟩ := Location.text_isPrefix_append l [name]
  rw [← hrest]
  exact nameSize_append_ge _ rest

/-- A place below another is looked up through a directory that the upper one
leads to. -/
theorem find_concat {found : Location × Option Node} (hclean : (l ++ [name]).IsClean)
    (h : t.find followLast (Location.text (l ++ [name])) = .ok found) :
    ∃ d fewer, t.find true (Location.text l) = .ok (d, some .directory) ∧
      t.findFrom followLast fewer d [name] = .ok found := by
  obtain ⟨-, hsize, -⟩ := find_eq_ok_iff.mp h
  have hshort : ¬nameSize (Location.text l) > pathLimit :=
    Nat.not_lt.mpr (Nat.le_trans (nameSize_text_concat l name) hsize)
  rw [find_text hclean, if_neg (Nat.not_lt.mpr hsize)] at h
  rw [find_text hclean.of_append, if_neg hshort]
  exact findFrom_append (List.cons_ne_nil _ _) h

/-! ## What a lookup is refused for -/

theorem advance_refused {error : SystemError}
    (h : t.advance followLast place pieces = .refused error) :
    error = .noEntry ∨ error = .nameTooLong ∨ error = .notDirectory := by
  fun_induction advance t followLast place pieces <;> grind

theorem findFrom_error {error : SystemError}
    (h : t.findFrom followLast links place pieces = .error error) :
    error = .noEntry ∨ error = .nameTooLong ∨ error = .notDirectory ∨ error = .tooManyLinks := by
  induction links using Nat.strongRecOn generalizing place pieces with
  | ind links ih =>
    cases hadvance : t.advance followLast place pieces with
    | arrived p n =>
      rw [findFrom_of_arrived hadvance] at h
      cases h
    | refused refusal =>
      have herror : refusal = error := by
        unfold findFrom at h
        rw [hadvance] at h
        exact Except.error.inj h
      rw [← herror]
      exact (advance_refused hadvance).imp_right (Or.imp_right .inl)
    | atLink d target rest =>
      cases links with
      | zero =>
        rw [findFrom, hadvance] at h
        cases h
        exact .inr (.inr (.inr rfl))
      | succ fewer =>
        rw [findFrom_of_atLink hadvance] at h
        exact ih fewer (Nat.lt_succ_self fewer) h

theorem find_refused {error : SystemError} (h : t.find followLast path = .error error) :
    error = .noEntry ∨ error = .nameTooLong ∨ error = .notDirectory ∨ error = .tooManyLinks := by
  rw [find] at h
  split at h
  · cases h
    exact .inl rfl
  · split at h
    · cases h
      exact .inr (.inl rfl)
    · exact findFrom_error h

/-- A test of what stands at a path fails only if a name, or the path itself, is too long to be
looked up. -/
theorem test_error {property : Node → Bool} {fault : Fault}
    (h : t.test property path = .error fault) : fault = .system .nameTooLong path := by
  simp only [test, status] at h
  cases hcheck : checkPath path with
  | error refusal =>
    have habsent : meansAbsent refusal = true := by
      simp only [checkPath] at hcheck
      split at hcheck
      · cases hcheck
        rfl
      · split at hcheck <;> cases hcheck
        rfl
    simp [hcheck, bind, Except.bind, habsent] at h
  | ok =>
    simp only [hcheck, bind, Except.bind] at h
    cases hfind : t.find true path with
    | ok found =>
      obtain ⟨place, node⟩ := found
      rw [hfind] at h
      cases node <;> simp [meansAbsent] at h
    | error error =>
      rw [hfind] at h
      rcases find_refused hfind with rfl | rfl | rfl | rfl
      · simp [meansAbsent] at h
      · exact (Except.error.inj h).symm
      · simp [meansAbsent] at h
      · simp [meansAbsent] at h

/-! ## What stands at the end of a path -/

theorem status_eq_ok_iff {node : Node} :
    t.status followLast path = .ok (p, node) ↔
      checkPath path = .ok () ∧ t.find followLast path = .ok (p, some node) := by
  rw [status]
  cases hcheck : checkPath path with
  | error fault => simp [bind, Except.bind]
  | ok =>
    cases hfind : t.find followLast path with
    | error error => simp [bind, Except.bind]
    | ok found =>
      obtain ⟨place, n⟩ := found
      cases n <;> simp [bind, Except.bind]

/-- A path can be entered if it leads to a directory. -/
theorem canEnter_iff :
    t.canEnter path = true ↔
      checkPath path = .ok () ∧ ∃ d, t.find true path = .ok (d, some .directory) := by
  rw [canEnter]
  cases hstatus : t.status true path with
  | error fault =>
    simp only [Bool.false_eq_true, false_iff, not_and, not_exists]
    intro hcheck d hfind
    rw [status_eq_ok_iff.mpr ⟨hcheck, hfind⟩] at hstatus
    cases hstatus
  | ok found =>
    obtain ⟨place, node⟩ := found
    obtain ⟨hcheck, hfind⟩ := status_eq_ok_iff.mp hstatus
    simp [hcheck, hfind]

/-- A path can be reached if it leads to anything. -/
theorem canReach_iff :
    t.canReach path = true ↔
      checkPath path = .ok () ∧ ∃ place node, t.find true path = .ok (place, some node) := by
  rw [canReach]
  cases hstatus : t.status true path with
  | error fault =>
    simp only [Bool.false_eq_true, false_iff, not_and, not_exists]
    intro hcheck place node hfind
    rw [status_eq_ok_iff.mpr ⟨hcheck, hfind⟩] at hstatus
    cases hstatus
  | ok found =>
    obtain ⟨place, node⟩ := found
    obtain ⟨hcheck, hfind⟩ := status_eq_ok_iff.mp hstatus
    simp [hcheck, hfind]

theorem canReach_of_canEnter (h : t.canEnter path = true) : t.canReach path = true := by
  obtain ⟨hcheck, d, hfind⟩ := canEnter_iff.mp h
  exact canReach_iff.mpr ⟨hcheck, d, .directory, hfind⟩

/-- Whatever is looked up below a place, the place can be entered. -/
theorem canEnter_of_find_concat {found : Location × Option Node}
    (hclean : (l ++ [name]).IsClean)
    (hcheck : checkPath (Location.text (l ++ [name])) = .ok ())
    (h : t.find followLast (Location.text (l ++ [name])) = .ok found) :
    t.canEnter (Location.text l) = true := by
  obtain ⟨d, fewer, hd, -⟩ := find_concat hclean h
  have hcheck' := checkPath_of_longer (Location.text_isPrefix_append l [name]) hcheck
  exact canEnter_iff.mpr ⟨hcheck', d, hd⟩

/-! ## What stands in a directory -/

/-- What stands itself under a name in a directory is what the directory has there. -/
theorem node?_of_status (hclean : (l ++ [name]).IsClean)
    (hl : t.status true (Location.text l) = .ok (d, .directory)) {node : Node}
    (h : t.status false (Location.text (l ++ [name])) = .ok (p, node)) :
    p = d ++ [name] ∧ t.node? (d ++ [name]) = some node := by
  obtain ⟨d', fewer, hd', hname⟩ := find_concat hclean (status_eq_ok_iff.mp h).2
  have hsame : d' = d := by
    rw [(status_eq_ok_iff.mp hl).2] at hd'
    simpa using hd'.symm
  obtain ⟨hp, hnode⟩ := findFrom_name hclean.last (by simp) hname
  rw [hsame] at hp hnode
  exact ⟨hp, hnode.symm⟩

/-- What a directory has under a name stands there itself, if it can be looked at. -/
theorem status_of_node? (hclean : (l ++ [name]).IsClean)
    (hl : t.status true (Location.text l) = .ok (d, .directory)) {node : Node}
    (hnode : t.node? (d ++ [name]) = some node) {found : Location × Node}
    (hfound : t.status true (Location.text (l ++ [name])) = .ok found) :
    t.status false (Location.text (l ++ [name])) = .ok (d ++ [name], node) := by
  obtain ⟨-, hl⟩ := status_eq_ok_iff.mp hl
  obtain ⟨hcheck, hfound⟩ := status_eq_ok_iff.mp hfound
  obtain ⟨-, hsize, -⟩ := find_eq_ok_iff.mp hfound
  have hshort : ¬nameSize (Location.text l) > pathLimit :=
    Nat.not_lt.mpr (Nat.le_trans (nameSize_text_concat l name) hsize)
  rw [find_text hclean.of_append, if_neg hshort] at hl
  obtain ⟨fewer, hfewer⟩ := findFrom_append_of_directory hl
  rw [find_text hclean, if_neg (Nat.not_lt.mpr hsize), hfewer _ _ (List.cons_ne_nil _ _)] at hfound
  have hgoesOn := advance_ne_refused hfound
  have hd := isDirectory_of_advance (List.cons_ne_nil _ _) hgoesOn
  have hname : ¬nameSize name > nameLimit := by
    intro hlong
    obtain ⟨hempty, hhere, hup, -⟩ := hclean.last
    refine hgoesOn .nameTooLong ?_
    rw [advance, if_neg (not_not.mpr hd), if_neg (not_or.mpr ⟨hempty, hhere⟩), if_neg hup,
      if_pos hlong]
  refine status_eq_ok_iff.mpr ⟨hcheck, ?_⟩
  rw [find_text hclean, if_neg (Nat.not_lt.mpr hsize), hfewer _ _ (List.cons_ne_nil _ _)]
  have harrived := @advance_name t false d name hclean.last hd (by simp)
  rw [if_neg hname, hnode] at harrived
  exact findFrom_of_arrived harrived

end ProseCompiler.Tree
