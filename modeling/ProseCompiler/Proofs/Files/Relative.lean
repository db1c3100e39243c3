import ProseCompiler.Proofs.Files.Joining

/-!
# From one place to another

A path that leads from one place to another goes up to what both have in common, and takes
the names of the other place from there on (`relativeTo_eq`).  Joined to the place that it
starts from it goes there and back again; but no link stands on that stretch, so every step
up undoes a name, and what is left is the way to the other place
(`resolve_join_relativeTo`).

Nothing is asked of the other place: it may be a link or stand behind links, and need not
exist.
-/

namespace ProseCompiler

namespace Location

theorem take_shared (l m : Location) : l.take (shared l m) = m.take (shared l m) := by
  fun_induction shared l m with
  | case1 l name m ih => rw [List.take_succ_cons, List.take_succ_cons, ih]
  | case2 | case3 => rfl

/-- All of a place is shared only with itself and with what stands below it. -/
theorem drop_shared_ne_nil {l m : Location} (h : ¬m <+: l) : m.drop (shared l m) ≠ [] := by
  intro hnone
  have htake : m.take (shared l m) = m := List.take_of_length_le (List.drop_eq_nil_iff.mp hnone)
  rw [← take_shared] at htake
  exact h (htake ▸ List.take_prefix _ _)

/-- The path that leads from one place to another. -/
def way (start target : Location) : Path :=
  let n := shared start target
  ⟨.relative, List.replicate (start.length - n) Path.up ++ target.drop n⟩

theorem relativeTo_eq (start target : Location) :
    relativeTo start target = (way start target).text := by
  rw [relativeTo, Path.text, way]
  split
  · next hnone => rw [if_pos ⟨rfl, hnone⟩]
  · next parts hne =>
    rw [if_neg fun h => hne h.2]
    rfl

variable {start target : Location}

theorem way_isReached (hclean : target.IsClean) : (way start target).IsReached :=
  .relative _ fun name hname => hclean name (List.mem_of_mem_drop hname)

theorem way_parts_ne_nil (h : ¬target <+: start) : (way start target).parts ≠ [] := by
  rw [way]
  exact fun hnone => drop_shared_ne_nil h (List.append_eq_nil_iff.mp hnone).2

/-- The last name of a place is where the path to it ends. -/
theorem way_name (h : ¬target <+: start) : (way start target).name = name target := by
  have hsplit := List.take_append_drop (shared start target) target
  have hrest := drop_shared_ne_nil h
  rw [Path.name, way, List.getLast?_append_of_ne_nil _ hrest, name]
  rw [← List.getLast?_append_of_ne_nil (target.take (shared start target)) hrest, hsplit]

end Location

namespace Path

variable {p : Path}

theorem IsReached.ofText_text (hp : p.IsReached) (hne : p.parts ≠ []) : ofText p.text = p := by
  have hbusy : busy p.parts = p.parts := List.filter_eq_self.mpr fun part hpart => by
    have hhere : part ≠ here := by
      cases hp with
      | root hnames => exact (hnames part hpart).2.1
      | relative steps hnames =>
        rcases List.mem_append.mp hpart with hup | hname
        · rw [List.eq_of_mem_replicate hup]
          decide
        · exact (hnames part hname).2.1
    simp [(hp.part_plain hpart).1, hhere]
  have hparts : (ofText p.text).parts = p.parts := by
    rw [ofText_parts, hp.pieces_text hne]
    split
    · exact hbusy
    · rw [busy_append, hbusy]
      rfl
  have hanchor : (ofText p.text).anchor = p.anchor := hp.anchorOf_text hne
  cases p
  rw [mk.injEq]
  exact ⟨hanchor, hparts⟩

/-- The text of a path from a root splits into its components behind empty pieces. -/
theorem pieces_text_of_isAbsolute (habsolute : p.anchor ≠ .relative)
    (hslash : ∀ part ∈ p.parts, ('/' : CodePoint) ∉ part) (hne : p.parts ≠ []) :
    ∃ idle, (∀ piece ∈ idle, piece = []) ∧ pieces p.text = idle ++ p.parts := by
  obtain ⟨start, hstart, htext⟩ := Tree.text_of_isAbsolute habsolute
  have htext' : p.text = start ++ ('/' : CodePoint) :: Text.joinWith "/" p.parts := htext p.parts
  refine ⟨pieces start, ?_, ?_⟩
  · rcases hstart with rfl | rfl <;> decide
  · rw [htext', pieces, Text.splitOn_append_separator]
    exact congrArg _ (Text.splitOn_joinWith hslash hne)

end Path

/-- Empty pieces in front make no difference to a walk. -/
theorem Location.walk_append_idle {l : Location} {idle ps : List Text}
    (hidle : ∀ piece ∈ idle, piece = []) : walk l (idle ++ ps) = walk l ps := by
  induction idle with
  | nil => rfl
  | cons piece idle ih =>
    rw [List.cons_append, walk, if_pos (.inl (hidle piece List.mem_cons_self))]
    exact ih fun other hother => hidle other (List.mem_cons_of_mem piece hother)

namespace Tree

variable {t : Tree} {p q : Path} {ps idle rest : List Text} {l m root target start : Location}
  {follow : Followed → Path → List Text → Except Fault Resolution} {followed : Followed}

/-- The place that a path from a root spells is made of its names. -/
theorem ofText_text_of_isAbsolute (habsolute : p.anchor ≠ .relative)
    (hclean : Location.IsClean p.parts) (hne : p.parts ≠ []) :
    Location.ofText start p.text = p.parts := by
  obtain ⟨idle, hidle, hpieces⟩ := Path.pieces_text_of_isAbsolute habsolute
    (fun part hpart => (hclean part hpart).2.2.2) hne
  rw [Location.ofText, if_neg (anchorOf_text_of_isAbsolute habsolute), hpieces,
    Location.walk_append_idle hidle]
  exact walk_of_isClean hclean

/-! ## Resolving -/

theorem resolvePieces_append_idle (hidle : ∀ piece ∈ idle, piece = []) :
    t.resolvePieces follow followed p (idle ++ ps) = t.resolvePieces follow followed p ps := by
  induction idle with
  | nil => rfl
  | cons piece idle ih =>
    rw [List.cons_append, resolvePieces_idle (.inl (hidle piece List.mem_cons_self))]
    exact ih fun other hother => hidle other (List.mem_cons_of_mem piece hother)

/-- Paths from a root resolve to the same place if their components do. -/
theorem resolve_eq_of_parts (hp : p.anchor ≠ .relative) (hq : q.anchor ≠ .relative)
    (hpslash : ∀ part ∈ p.parts, ('/' : CodePoint) ∉ part)
    (hqslash : ∀ part ∈ q.parts, ('/' : CodePoint) ∉ part) (hpne : p.parts ≠ [])
    (hqne : q.parts ≠ [])
    (h : t.resolveWithin resolveDepth [] ⟨.root, []⟩ p.parts =
      t.resolveWithin resolveDepth [] ⟨.root, []⟩ q.parts) : t.resolve p = t.resolve q := by
  have hparts : ∀ {p : Path}, p.anchor ≠ .relative →
      (∀ part ∈ p.parts, ('/' : CodePoint) ∉ part) → p.parts ≠ [] →
      t.resolveWithin resolveDepth [] (startPath p.text) (Path.pieces p.text) =
        t.resolveWithin resolveDepth [] ⟨.root, []⟩ p.parts := by
    intro p habsolute hslash hne
    obtain ⟨idle, hidle, hpieces⟩ := Path.pieces_text_of_isAbsolute habsolute hslash hne
    rw [startPath, if_neg (anchorOf_text_of_isAbsolute habsolute), hpieces]
    exact resolvePieces_append_idle hidle
  have hreal : t.realPlace p.text = t.realPlace q.text := by
    rw [realPlace_eq, realPlace_eq, hparts hp hpslash hpne, hparts hq hqslash hqne, h]
  rw [resolve, resolve, hreal]

/-- Each step up undoes a name. -/
theorem resolvePieces_steps (hclean : Location.IsClean (l ++ m)) :
    t.resolvePieces follow followed ⟨.root, l ++ m⟩ (List.replicate m.length Path.up ++ rest) =
      t.resolvePieces follow followed ⟨.root, l⟩ rest := by
  induction m using List.reverseRecOn with
  | nil => rw [List.append_nil, List.length_nil, List.replicate_zero, List.nil_append]
  | append_singleton m name ih =>
    rw [← List.append_assoc] at hclean ⊢
    rw [List.length_append, List.length_singleton, List.replicate_succ, List.cons_append,
      resolvePieces_up, above_root hclean, Location.parent, List.dropLast_concat]
    exact ih hclean.of_append

/-- The names of a place behind no link, followed by the path from there to another place,
lead where the names of the other place lead. -/
theorem resolvePieces_way (hclean : root.IsClean) (hlinks : t.Unlinked root)
    (hcheck : checkPath (Location.text root) = .ok ()) (target : Location) :
    t.resolvePieces follow followed ⟨.root, []⟩ (root ++ (Location.way root target).parts) =
      t.resolvePieces follow followed ⟨.root, []⟩ target := by
  obtain ⟨n, hn⟩ : ∃ n, n = Location.shared root target := ⟨_, rfl⟩
  have hshared : root.take n = target.take n := hn ▸ Location.take_shared root target
  have hstart : root.take n <+: root := List.take_prefix n root
  have hsplit : root.take n ++ root.drop n = root := List.take_append_drop n root
  have htext : Location.text (root.take n) <+: Location.text root := by
    conv_rhs => rw [← hsplit]
    exact Location.text_isPrefix_append _ _
  have hthere : t.resolvePieces follow followed ⟨.root, []⟩ target =
      t.resolvePieces follow followed ⟨.root, root.take n⟩ (target.drop n) := by
    conv_lhs => rw [← List.take_append_drop n target, ← hshared]
    exact @resolvePieces_of_unlinked t [] (root.take n) (target.drop n) follow followed
      (fun name hname => hclean name (hstart.mem hname)) (hlinks.of_longer hstart)
      (checkPath_of_longer htext hcheck)
  have hback : t.resolvePieces follow followed ⟨.root, root⟩
        (List.replicate (root.length - n) Path.up ++ target.drop n) =
      t.resolvePieces follow followed ⟨.root, root.take n⟩ (target.drop n) := by
    have hsteps : t.resolvePieces follow followed ⟨.root, root.take n ++ root.drop n⟩
        (List.replicate (root.drop n).length Path.up ++ target.drop n) =
          t.resolvePieces follow followed ⟨.root, root.take n⟩ (target.drop n) :=
      resolvePieces_steps (hsplit.symm ▸ hclean)
    rwa [hsplit, List.length_drop] at hsteps
  rw [hthere, ← hback, Location.way, ← hn]
  exact @resolvePieces_of_unlinked t [] root _ follow followed hclean hlinks hcheck

/-- A path from a place behind no link to another one, joined to the place that it starts
from, resolves to what the other one resolves to. -/
theorem resolve_join_relativeTo (hclean : root.IsClean) (hlinks : t.Unlinked root)
    (hcheck : checkPath (Location.text root) = .ok ()) (habsolute : p.anchor ≠ .relative)
    (hparts : Location.IsClean p.parts) (hbeyond : ¬p.parts <+: root) :
    t.resolve ((Path.ofLocation root).join (Path.ofText (Location.relativeTo root p.parts))) =
      t.resolve p := by
  have hreached : (Location.way root p.parts).IsReached := Location.way_isReached hparts
  have hne := Location.way_parts_ne_nil hbeyond
  have hjoined : (Path.ofLocation root).join
      (Path.ofText (Location.relativeTo root p.parts)) =
        ⟨.root, root ++ (Location.way root p.parts).parts⟩ := by
    rw [Location.relativeTo_eq, hreached.ofText_text hne]
    rfl
  have hslash : ∀ part ∈ root ++ (Location.way root p.parts).parts,
      ('/' : CodePoint) ∉ part := by
    intro part hpart
    rcases List.mem_append.mp hpart with hpart | hpart
    · exact (hclean part hpart).2.2.2
    · exact (hreached.part_plain hpart).2
  have hpne : p.parts ≠ [] := by
    intro hnone
    rw [hnone] at hbeyond
    exact hbeyond List.nil_prefix
  rw [hjoined]
  exact resolve_eq_of_parts (by simp) habsolute hslash (fun part hpart => (hparts part hpart).2.2.2)
    (fun h => hne (List.append_eq_nil_iff.mp h).2) hpne (resolvePieces_way hclean hlinks hcheck _)

end Tree

end ProseCompiler
