import ProseCompiler.Proofs.Files.Directories
import ProseCompiler.Proofs.Files.Writing

/-!
# Trees stay well formed

A lookup in a well-formed tree arrives at a clean location in a directory, even
where nothing stands (`find_isPlace`).  So what is put there keeps the tree well
formed, and with it everything that makes directories or writes files.
-/

namespace ProseCompiler.Tree

variable {t t' : Tree} {followLast : Bool} {links : Nat} {place p l d : Location}
  {pieces rest : List Text} {n : Option Node} {e : Node} {path text target : Text}

/-! ## Where lookups arrive -/

/-- A place where something can stand: a clean location in a directory. -/
def IsPlace (t : Tree) (l : Location) : Prop :=
  l.IsClean ∧ t.node? (Location.parent l) = some .directory

theorem WellFormed.isPlace {node : Node} (hform : t.WellFormed) (hl : t.node? l = some node) :
    t.IsPlace l :=
  ⟨hform.isClean hl, hform.parent_isDirectory hl⟩

theorem advance_isPlace (hform : t.WellFormed)
    (hpieces : ∀ piece ∈ pieces, ('/' : CodePoint) ∉ piece) (hplace : t.IsPlace place)
    (h : t.advance followLast place pieces = .arrived p n) : t.IsPlace p := by
  fun_induction advance t followLast place pieces with
  | case1 place =>
    cases h
    exact hplace
  | case2 | case5 | case7 | case10 => cases h
  | case3 place piece rest hdirectory hidle ih =>
    exact ih (fun other hother => hpieces other (List.mem_cons_of_mem piece hother)) hplace h
  | case4 place rest hdirectory hidle ih =>
    exact ih (fun other hother => hpieces other (List.mem_cons_of_mem _ hother))
      (hform.isPlace hplace.2) h
  | case6 place piece rest hdirectory hidle hup hshort next target hnode hlast =>
    injection h with hp
    exact hp ▸ hform.isPlace hnode
  | case8 place piece rest hdirectory hidle hup hshort next node hother hnode ih =>
    exact ih (fun other hother => hpieces other (List.mem_cons_of_mem piece hother))
      (hform.isPlace hnode) h
  | case9 place piece hdirectory hidle hup hshort next hnone =>
    injection h with hp
    rw [not_or] at hidle
    rw [not_not] at hdirectory
    have hname : Path.IsName piece :=
      ⟨hidle.1, hidle.2, hup, hpieces piece List.mem_cons_self⟩
    rw [← hp]
    refine ⟨(hform.isClean hdirectory).concat hname, ?_⟩
    rwa [Location.parent, List.dropLast_concat]

theorem advance_atLink (hpieces : ∀ piece ∈ pieces, ('/' : CodePoint) ∉ piece)
    (h : t.advance followLast place pieces = .atLink d target rest) :
    t.node? d = some .directory ∧ ∀ piece ∈ rest, ('/' : CodePoint) ∉ piece := by
  fun_induction advance t followLast place pieces <;> grind

theorem findFrom_isPlace (hform : t.WellFormed)
    (hpieces : ∀ piece ∈ pieces, ('/' : CodePoint) ∉ piece) (hplace : t.IsPlace place)
    (h : t.findFrom followLast links place pieces = .ok (p, n)) : t.IsPlace p := by
  induction links using Nat.strongRecOn generalizing place pieces with
  | _ links ih =>
    rcases findFrom_cases h with harrived | ⟨d, target, rest, fewer, rfl, hlink, hfewer⟩
    · exact advance_isPlace hform hpieces hplace harrived
    · obtain ⟨hd, hrest⟩ := advance_atLink hpieces hlink
      refine ih fewer (Nat.lt_succ_self fewer) (fun piece hpiece => ?_) ?_ hfewer
      · rcases List.mem_append.mp hpiece with htarget | hpiece
        · exact Path.not_mem_of_mem_pieces htarget
        · exact hrest piece hpiece
      · rw [behindLink]
        split
        · exact hform.isPlace hd
        · exact hform.isPlace (node?_nil t)

/-- A lookup arrives where something can stand. -/
theorem find_isPlace (hform : t.WellFormed) (h : t.find followLast path = .ok (p, n)) :
    t.IsPlace p := by
  refine findFrom_isPlace hform (fun _ => Path.not_mem_of_mem_pieces) ?_ (find_eq_ok_iff.mp h).2.2
  split
  · exact hform.isPlace hform.workingDirectory_isDirectory
  · exact hform.isPlace (node?_nil t)

/-! ## Changes -/

/-- What is put where something can stand, but no directory does, keeps the tree
well formed. -/
theorem WellFormed.put (hform : t.WellFormed) (hleaf : t.IsLeaf l) (hplace : t.IsPlace l) :
    (t.put l e).WellFormed := by
  have hl := hleaf.ne_nil
  have hdirectory : ∀ {m}, t.node? m = some .directory → (t.put l e).node? m = some .directory := by
    intro m hm
    have hne : m ≠ l := by
      rintro rfl
      exact hleaf.1 hm
    rwa [node?_put_of_ne hl hne]
  refine ⟨fun {m node} hm => ?_, fun {m node} hm => hdirectory ?_, ?_⟩
  · rw [node?_put hl] at hm
    split at hm
    · next heq => exact heq ▸ hplace.1
    · exact hform.isClean hm
  · rw [node?_put hl] at hm
    split at hm
    · next heq => exact heq ▸ hplace.2
    · exact hform.parent_isDirectory hm
  · rw [workingDirectory_put]
    exact hdirectory hform.workingDirectory_isDirectory

theorem WellFormed.makeOrKeep (hform : t.WellFormed) (path : Text) :
    (t.makeOrKeep path).1.WellFormed := by
  rcases makeOrKeep_cases t path with ⟨place, -, hfind, hmade⟩ | ⟨-, hkept⟩ | ⟨_, -, hrefused⟩
  · have hnone : none = t.node? place := node?_of_find hfind
    rw [hmade]
    exact hform.put ⟨by simp [← hnone], fun _ => by simp [← hnone]⟩ (find_isPlace hform hfind)
  · rw [hkept]
    exact hform
  · rw [hrefused]
    exact hform

theorem WellFormed.ensureDirectory (hform : t.WellFormed) (reversed : List Text) :
    (t.ensureDirectory reversed).1.WellFormed :=
  ensureDirectory_keeps (fun _ path hmade => hmade.makeOrKeep path) hform reversed

theorem WellFormed.put_of_writable {content : Bytes} (hform : t.WellFormed)
    (h : t.writable path = .ok (place, content)) (octets : Bytes) :
    (t.put place (.file octets)).WellFormed := by
  obtain ⟨n, hfind⟩ := find_of_writable h
  exact hform.put (isLeaf_of_writable h) (find_isPlace hform hfind)

theorem WellFormed.writeText (hform : t.WellFormed) (path text : Text) :
    (t.writeText path text).1.WellFormed := by
  rcases writeText_changes t path text with heq | ⟨place, old, octets, hopen, heq⟩
  · rwa [heq]
  · rw [heq]
    exact hform.put_of_writable hopen octets

end ProseCompiler.Tree
