import Mathlib.Data.List.Induction
import Mathlib.Tactic.ByContra
import ProseCompiler.Files.Tree
import ProseCompiler.Proofs.Files.Path
import ProseCompiler.Proofs.Keyed

/-!
# The view of a tree

Lookups see a tree through `node?` alone, so a change to a tree is known by what
it does there: `put` decides one place and keeps the others.

`WellFormed` is what a file system grants of any tree: entries have names, and
each of them stands in a directory.
-/

namespace ProseCompiler.Tree

variable {t : Tree} {l m : Location} {e node : Node}

@[simp] theorem node?_nil (t : Tree) : t.node? [] = some .directory := rfl

theorem node?_of_ne_nil (hl : l ≠ []) : t.node? l = t.entries.lookup l := if_neg hl

/-! ## Putting -/

@[simp] theorem workingDirectory_put (t : Tree) (l : Location) (e : Node) :
    (t.put l e).workingDirectory = t.workingDirectory := by
  unfold put
  split <;> rfl

/-- Putting an entry below the root decides its place and keeps every other. -/
theorem node?_put (hl : l ≠ []) : (t.put l e).node? m = if m = l then some e else t.node? m := by
  by_cases hm : m = []
  · subst hm
    rw [node?_nil, node?_nil, if_neg (Ne.symm hl)]
  rw [node?_of_ne_nil hm, node?_of_ne_nil hm, ← lookup_put t.entries l m e, put]
  split <;> rfl

theorem node?_put_self (hl : l ≠ []) : (t.put l e).node? l = some e := by
  rw [node?_put hl, if_pos rfl]

theorem node?_put_of_ne (hl : l ≠ []) (hm : m ≠ l) : (t.put l e).node? m = t.node? m := by
  rw [node?_put hl, if_neg hm]

/-- What stands at a place below the root is an entry. -/
theorem mem_entries_of_node? (h : t.node? l = some node) (hl : l ≠ []) : (l, node) ∈ t.entries := by
  rw [node?_of_ne_nil hl, List.lookup_eq_some_iff] at h
  obtain ⟨before, after, heq, -⟩ := h
  rw [heq]
  exact List.mem_append_right _ List.mem_cons_self

/-! ## Well-formed trees -/

/-- Every entry has a name and stands in a directory, and so does the program. -/
structure WellFormed (t : Tree) : Prop where
  isClean : ∀ {l node}, t.node? l = some node → l.IsClean
  parent_isDirectory : ∀ {l node}, t.node? l = some node →
    t.node? (Location.parent l) = some .directory
  workingDirectory_isDirectory : t.node? t.workingDirectory = some .directory

/-- Only the entries of a tree have to be looked at. -/
theorem WellFormed.of_entries
    (hentries : ∀ entry ∈ t.entries, Location.IsClean entry.1 ∧
      t.node? (Location.parent entry.1) = some .directory)
    (hworking : t.node? t.workingDirectory = some .directory) : t.WellFormed := by
  refine ⟨fun {l node} hnode => ?_, fun {l node} hnode => ?_, hworking⟩
  · by_cases hl : l = []
    · rw [hl]
      exact .nil
    · exact (hentries _ (mem_entries_of_node? hnode hl)).1
  · by_cases hl : l = []
    · rw [hl]
      rfl
    · exact (hentries _ (mem_entries_of_node? hnode hl)).2

/-- Whatever stands above something is a directory. -/
theorem WellFormed.isDirectory_of_append (hform : t.WellFormed) (hm : m ≠ [])
    (hnode : t.node? (l ++ m) = some node) : t.node? l = some .directory := by
  induction m using List.reverseRecOn generalizing node with
  | nil => exact absurd rfl hm
  | append_singleton m name ih =>
    have hparent := hform.parent_isDirectory hnode
    rw [Location.parent, ← List.append_assoc, List.dropLast_concat] at hparent
    by_cases hm' : m = []
    · rwa [hm', List.append_nil] at hparent
    · exact ih hm' hparent

/-- Nothing stands below a place where nothing stands. -/
theorem WellFormed.node?_eq_none_of_above (hform : t.WellFormed) (hstart : l <+: m)
    (hl : t.node? l = none) : t.node? m = none := by
  obtain ⟨rest, rfl⟩ := hstart
  by_cases hrest : rest = []
  · rwa [hrest, List.append_nil]
  · by_contra hsome
    obtain ⟨node, hnode⟩ := Option.ne_none_iff_exists'.mp hsome
    rw [hform.isDirectory_of_append hrest hnode] at hl
    exact absurd hl (by simp)

end ProseCompiler.Tree
