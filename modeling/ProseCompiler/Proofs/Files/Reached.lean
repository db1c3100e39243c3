import ProseCompiler.Proofs.Files.Names

/-!
# The paths that a resolution comes to

A resolution goes from path to path: names from the root on, or steps up from where the
program stands with names behind them (`Path.IsReached`).  Such a path is told by its text
(`Path.IsReached.text_injective`), and `placeOf` is the place that it names.

What a lookup of its text meets are places that the path itself names.  So a link under a
name is found there if its text is short enough to be looked up at all (`find_child_link`),
and none is found where none stands (`find_child_ne_link`).
-/

namespace ProseCompiler

namespace Path

/-- The path of an entry below a path. -/
def child (p : Path) (name : Text) : Path := ⟨p.anchor, p.parts ++ [name]⟩

/-- Names from the root on, or steps up from where the program stands and names behind
them. -/
inductive IsReached : Path → Prop where
  | root {names : Location} (hnames : names.IsClean) : IsReached ⟨.root, names⟩
  | relative (steps : Nat) {names : Location} (hnames : names.IsClean) :
      IsReached ⟨.relative, List.replicate steps up ++ names⟩

variable {p q : Path} {name : Text}

theorem child_parts_ne_nil (p : Path) (name : Text) : (p.child name).parts ≠ [] := by
  simp [child]

theorem child_injective {other : Text} (h : p.child name = q.child other) :
    p = q ∧ name = other := by
  obtain ⟨anchor, parts⟩ := p
  obtain ⟨anchor', parts'⟩ := q
  rw [child, child, mk.injEq] at h
  obtain ⟨hparts, hname⟩ := List.append_inj' h.2 rfl
  rw [mk.injEq]
  exact ⟨⟨h.1, hparts⟩, List.singleton_inj.mp hname⟩

namespace IsReached

theorem child (hp : p.IsReached) (hname : IsName name) : (p.child name).IsReached := by
  cases hp with
  | root hnames => exact .root (hnames.concat hname)
  | relative steps hnames =>
    rw [Path.child, List.append_assoc]
    exact .relative steps (hnames.concat hname)

/-- No component of such a path is empty or holds a slash. -/
theorem part_plain (hp : p.IsReached) {part : Text} (hpart : part ∈ p.parts) :
    part ≠ [] ∧ ('/' : CodePoint) ∉ part := by
  cases hp with
  | root hnames =>
    obtain ⟨hempty, -, -, hslash⟩ := hnames part hpart
    exact ⟨hempty, hslash⟩
  | relative steps hnames =>
    rcases List.mem_append.mp hpart with hup | hname
    · rw [List.eq_of_mem_replicate hup]
      decide
    · obtain ⟨hempty, -, -, hslash⟩ := hnames part hname
      exact ⟨hempty, hslash⟩

/-! ### Texts -/

/-- The text of such a path splits into its components, behind an empty piece if it starts
at the root. -/
theorem pieces_text (hp : p.IsReached) (hne : p.parts ≠ []) :
    pieces p.text = (if p.anchor = .relative then [] else [[]]) ++ p.parts := by
  have hslash : ∀ part ∈ p.parts, ('/' : CodePoint) ∉ part :=
    fun part hpart => (hp.part_plain hpart).2
  cases hp with
  | root hnames => exact Location.pieces_text hnames hne
  | relative steps hnames =>
    have htext : text ⟨.relative, List.replicate steps up ++ _⟩ =
        Text.joinWith "/" (List.replicate steps up ++ _) := if_neg (fun h => hne h.2)
    rw [htext, pieces]
    exact Text.splitOn_joinWith hslash hne

theorem text_ne_nil (hp : p.IsReached) (hne : p.parts ≠ []) : p.text ≠ [] := by
  intro hempty
  have hpieces : [[]] = (if p.anchor = .relative then [] else [[]]) ++ p.parts := by
    rw [← hp.pieces_text hne, hempty]
    rfl
  split at hpieces
  · have hpart : [] ∈ p.parts := by
      rw [← List.nil_append p.parts, ← hpieces]
      exact List.mem_cons_self
    exact (hp.part_plain hpart).1 rfl
  · exact hne (List.append_right_eq_self.mp hpieces.symm)

theorem anchorOf_text (hp : p.IsReached) (hne : p.parts ≠ []) : anchorOf p.text = p.anchor := by
  have hplain : ∀ part ∈ p.parts, part ≠ [] ∧ ('/' : CodePoint) ∉ part :=
    fun part hpart => hp.part_plain hpart
  cases hp with
  | root hnames => exact Location.anchorOf_text hnames
  | @relative steps names hnames =>
    have htext : text ⟨.relative, List.replicate steps up ++ names⟩ =
        Text.joinWith "/" (List.replicate steps up ++ names) := if_neg (fun h => hne h.2)
    obtain ⟨first, rest, hparts⟩ := List.exists_cons_of_ne_nil hne
    simp only at hparts hplain
    -- The first component is not empty, and does not start with a slash.
    obtain ⟨hempty, hslash⟩ := hplain first (by rw [hparts]; exact List.mem_cons_self)
    obtain ⟨c, more, rfl⟩ := List.exists_cons_of_ne_nil hempty
    have hc : c ≠ ('/' : CodePoint) := fun h => hslash (h ▸ List.mem_cons_self)
    have hhead : ∃ tail, Text.joinWith "/" ((c :: more) :: rest) = c :: tail := by
      cases rest with
      | nil => exact ⟨more, rfl⟩
      | cons next rest => exact ⟨_, rfl⟩
    obtain ⟨tail, htail⟩ := hhead
    rw [htext, hparts, htail, anchorOf, List.takeWhile_cons, if_neg (by simpa using hc)]
    rfl

/-- Such a path is told by its text. -/
theorem text_injective (hp : p.IsReached) (hq : q.IsReached) (hpne : p.parts ≠ [])
    (hqne : q.parts ≠ []) (h : p.text = q.text) : p = q := by
  have hanchor : p.anchor = q.anchor := by
    rw [← hp.anchorOf_text hpne, ← hq.anchorOf_text hqne, h]
  have hpieces := hp.pieces_text hpne
  rw [h, hq.pieces_text hqne, hanchor] at hpieces
  obtain ⟨anchor, parts⟩ := p
  obtain ⟨anchor', parts'⟩ := q
  rw [mk.injEq]
  exact ⟨hanchor, (List.append_cancel_left hpieces).symm⟩

end IsReached

end Path

namespace Tree

variable {t : Tree} {p q : Path} {name : Text} {place : Location} {pieces : List Text}
  {followLast : Bool}

/-! ## Going up -/

theorem above_root {names : Location} (hnames : names.IsClean) :
    above ⟨.root, names⟩ = ⟨.root, Location.parent names⟩ := by
  rw [above]
  cases hlast : names.getLast? with
  | none =>
    rw [List.getLast?_eq_none_iff.mp hlast]
    rfl
  | some last =>
    have hup : last ≠ Path.up := (hnames last (List.mem_of_getLast? hlast)).2.2.1
    simp only [if_neg hup]
    rfl

theorem above_steps (steps : Nat) :
    above ⟨.relative, List.replicate steps Path.up⟩ =
      ⟨.relative, List.replicate (steps + 1) Path.up⟩ := by
  cases steps with
  | zero => rfl
  | succ steps =>
    rw [above, List.replicate_succ']
    simp only [List.getLast?_concat, if_true]
    rw [← List.replicate_succ', ← List.replicate_succ']

theorem above_child (hname : Path.IsName name) : above (p.child name) = p := by
  rw [above, Path.child]
  simp only [List.getLast?_concat, if_neg hname.2.2.1]
  rw [Path.parent, List.dropLast_concat]

end Tree

/-- Such a path is the start, one more step up, or an entry below another one. -/
theorem Path.IsReached.cases_child {p : Path} (hp : p.IsReached) :
    p = ⟨.root, []⟩ ∨ (∃ steps, p = ⟨.relative, List.replicate steps Path.up⟩) ∨
      ∃ q name, Path.IsReached q ∧ Path.IsName name ∧ p = q.child name := by
  cases hp with
  | @root names hnames =>
    rcases List.eq_nil_or_concat names with rfl | ⟨front, last, rfl⟩
    · exact .inl rfl
    · rw [List.concat_eq_append] at hnames ⊢
      exact .inr (.inr ⟨⟨.root, front⟩, last, .root hnames.of_append, hnames.last, rfl⟩)
  | @relative steps names hnames =>
    rcases List.eq_nil_or_concat names with rfl | ⟨front, last, rfl⟩
    · exact .inr (.inl ⟨steps, by rw [List.append_nil]⟩)
    · rw [List.concat_eq_append] at hnames ⊢
      refine .inr (.inr ⟨⟨.relative, List.replicate steps Path.up ++ front⟩, last,
        .relative steps hnames.of_append, hnames.last, ?_⟩)
      rw [Path.child, List.append_assoc]

theorem Path.IsReached.above {p : Path} (hp : p.IsReached) : (Tree.above p).IsReached := by
  rcases hp.cases_child with rfl | ⟨steps, rfl⟩ | ⟨q, name, hq, hname, rfl⟩
  · rw [Tree.above_root .nil]
    exact .root .nil
  · rw [Tree.above_steps, ← List.append_nil (List.replicate _ _)]
    exact .relative (steps + 1) .nil
  · rw [Tree.above_child hname]
    exact hq

namespace Tree

variable {t : Tree} {p q : Path} {name target : Text} {place : Location} {pieces : List Text}
  {followLast : Bool}

/-! ## The place that a path names -/

/-- Where a path starts. -/
def startOf (t : Tree) (anchor : Anchor) : Location :=
  if anchor = .relative then t.workingDirectory else []

/-- The place that a path names, if none of its components is a link. -/
def placeOf (t : Tree) (p : Path) : Location := Location.walk (t.startOf p.anchor) p.parts

theorem placeOf_child (hname : Path.IsName name) :
    t.placeOf (p.child name) = t.placeOf p ++ [name] := by
  obtain ⟨hempty, hhere, hup, -⟩ := hname
  rw [placeOf, placeOf, Path.child, Location.walk_append, Location.walk,
    if_neg (not_or.mpr ⟨hempty, hhere⟩), if_neg hup, Location.walk]

theorem placeOf_root {l : Location} (hl : l.IsClean) : t.placeOf ⟨.root, l⟩ = l :=
  walk_of_isClean hl

theorem placeOf_above (hp : p.IsReached) : t.placeOf (above p) = Location.parent (t.placeOf p) := by
  rcases hp.cases_child with rfl | ⟨steps, rfl⟩ | ⟨q, name, -, hname, rfl⟩
  · rfl
  · rw [above_steps, placeOf, placeOf, List.replicate_succ', Location.walk_append]
    rfl
  · rw [above_child hname, placeOf_child hname, Location.parent, List.dropLast_concat]

/-! ## Lookups along what names no link -/

/-- No piece leads to a link, if they are walked from a place. -/
def IsPlainWay (t : Tree) (place : Location) (pieces : List Text) : Prop :=
  ∀ start, start <+: pieces → ∀ target, t.node? (Location.walk place start) ≠ some (.link target)

theorem IsPlainWay.tail {piece : Text} {rest : List Text}
    (h : t.IsPlainWay place (piece :: rest)) :
    t.IsPlainWay (Location.walk place [piece]) rest := by
  intro start hstart target
  rw [← Location.walk_append]
  exact h (piece :: start) ((List.prefix_cons_inj piece).mpr hstart) target

/-- A lookup along a way without links comes to where it walks, or is refused. -/
theorem advance_of_isPlainWay (h : t.IsPlainWay place pieces) :
    t.advance followLast place pieces =
        .arrived (Location.walk place pieces) (t.node? (Location.walk place pieces)) ∨
      ∃ error, t.advance followLast place pieces = .refused error := by
  induction pieces generalizing place with
  | nil => exact .inl rfl
  | cons piece rest ih =>
    have hrest := ih h.tail
    rw [← Location.walk_append, List.singleton_append] at hrest
    rw [advance]
    split
    · exact .inr ⟨_, rfl⟩
    split
    · next hidle =>
      rw [Location.walk, if_pos hidle, Location.walk] at hrest
      exact hrest
    next hidle =>
    split
    · next hup =>
      rw [Location.walk, if_neg hidle, if_pos hup, Location.walk] at hrest
      exact hrest
    next hup =>
    split
    · exact .inr ⟨_, rfl⟩
    simp only
    have hwalk : Location.walk place [piece] = place ++ [piece] := by
      rw [Location.walk, if_neg hidle, if_neg hup, Location.walk]
    rw [hwalk] at hrest
    split
    · next target hnode =>
      have hplain := h [piece] (by simp) target
      rw [hwalk] at hplain
      exact absurd hnode hplain
    · exact hrest
    · next hnone =>
      split
      · next hlast =>
        rw [hlast, hwalk, hnone]
        exact .inl rfl
      · exact .inr ⟨_, rfl⟩

/-- A lookup goes the whole way if that leads through directories only, whose names the
system can look up. -/
theorem advance_of_directories
    (hdirectories : ∀ start, start <+: pieces →
      t.node? (Location.walk place start) = some .directory)
    (hnames : ∀ piece ∈ pieces, nameSize piece ≤ nameLimit) :
    t.advance followLast place pieces =
      .arrived (Location.walk place pieces) (some .directory) := by
  induction pieces generalizing place with
  | nil =>
    have hplace : t.node? place = some .directory := hdirectories [] List.nil_prefix
    rw [advance, hplace, Location.walk]
  | cons piece rest ih =>
    have hplace : t.node? place = some .directory := hdirectories [] List.nil_prefix
    have hshort : ¬nameSize piece > nameLimit := Nat.not_lt.mpr (hnames piece List.mem_cons_self)
    have hrest : t.advance followLast (Location.walk place [piece]) rest =
        .arrived (Location.walk place (piece :: rest)) (some .directory) := by
      have hwalk : Location.walk place (piece :: rest) =
          Location.walk (Location.walk place [piece]) rest := Location.walk_append place [piece] rest
      rw [hwalk]
      refine ih (fun start hstart => ?_) fun other hother =>
        hnames other (List.mem_cons_of_mem piece hother)
      rw [← Location.walk_append]
      exact hdirectories (piece :: start) ((List.prefix_cons_inj piece).mpr hstart)
    rw [advance, if_neg (not_not.mpr hplace), if_neg hshort]
    split
    · next hidle =>
      have hwalk : Location.walk place [piece] = place := by
        rw [Location.walk, if_pos hidle, Location.walk]
      rw [← hrest, hwalk]
    next hidle =>
    split
    · next hup =>
      have hwalk : Location.walk place [piece] = Location.parent place := by
        rw [Location.walk, if_neg hidle, if_pos hup, Location.walk]
      rw [← hrest, hwalk]
    next hup =>
    have hwalk : Location.walk place [piece] = place ++ [piece] := by
      rw [Location.walk, if_neg hidle, if_neg hup, Location.walk]
    have hnext : t.node? (place ++ [piece]) = some .directory := by
      rw [← hwalk]
      exact hdirectories [piece] (by simp)
    simp only [hnext]
    rw [← hrest, hwalk]

/-- The text of a path is looked up by its components. -/
theorem find_reached (hp : p.IsReached) (hne : p.parts ≠ []) :
    t.find followLast p.text =
      if nameSize p.text > pathLimit then .error .nameTooLong
      else t.findFrom followLast linkLimit (t.startOf p.anchor) p.parts := by
  have hstart : (if Path.anchorOf p.text = .relative then t.workingDirectory else []) =
      t.startOf p.anchor := by
    rw [hp.anchorOf_text hne, startOf]
  rw [find, if_neg (hp.text_ne_nil hne)]
  simp only [hstart, hp.pieces_text hne]
  split
  · rfl
  · apply findFrom_congr
    split
    · rw [List.nil_append]
    · next habsolute =>
      rw [startOf, if_neg habsolute]
      simp [advance]

/-- Steps up lead above a place. -/
theorem walk_steps_isPrefix (place : Location) {steps : List Text}
    (hsteps : ∀ step ∈ steps, step = Path.up) : Location.walk place steps <+: place := by
  induction steps generalizing place with
  | nil => exact List.prefix_refl place
  | cons step rest ih =>
    have hstep : step = Path.up := hsteps step List.mem_cons_self
    have hrest := ih (Location.parent place) fun other hother =>
      hsteps other (List.mem_cons_of_mem step hother)
    rw [Location.walk, if_neg (by rw [hstep]; decide), if_pos hstep]
    exact hrest.trans (List.dropLast_prefix place)

/-- What a path names on its way stands where the program stands or above, or where the
path leads or above. -/
theorem walk_isPrefix (hp : p.IsReached) {start : List Text} (hstart : start <+: p.parts) :
    Location.walk (t.startOf p.anchor) start <+: t.workingDirectory ∨
      Location.walk (t.startOf p.anchor) start <+: t.placeOf p := by
  cases hp with
  | root hnames =>
    have hclean : Location.IsClean start := fun name hname => hnames name (hstart.mem hname)
    refine .inr ?_
    rw [placeOf_root hnames, startOf, if_neg (by simp), walk_of_isClean hclean]
    exact hstart
  | @relative steps names hnames =>
    rw [startOf, if_pos rfl]
    rcases List.prefix_or_prefix_of_prefix hstart (List.prefix_append _ names) with
      hup | ⟨more, rfl⟩
    · exact .inl (walk_steps_isPrefix _ fun step hstep =>
        List.eq_of_mem_replicate (hup.mem hstep))
    · have hmore : more <+: names := (List.prefix_append_right_inj _).mp hstart
      have hclean : Location.IsClean more := fun name hname => hnames name (hmore.mem hname)
      refine .inr ?_
      rw [placeOf, startOf, if_pos rfl, Location.walk_append, Location.walk_append,
        walk_of_isClean hclean, walk_of_isClean hnames]
      exact (List.prefix_append_right_inj _).mpr hmore

/-- The components of a path are steps up and names of the place that it names. -/
theorem eq_up_or_mem_placeOf (hp : p.IsReached) {part : Text} (hpart : part ∈ p.parts) :
    part = Path.up ∨ part ∈ t.placeOf p := by
  cases hp with
  | root hnames =>
    rw [placeOf_root hnames]
    exact .inr hpart
  | relative steps hnames =>
    rw [placeOf, Location.walk_append, walk_of_isClean hnames]
    exact (List.mem_append.mp hpart).imp List.eq_of_mem_replicate
      (List.mem_append_right _)

/-! ## Links under a name -/

/-- The system can be asked about a text: all of it can be stored, and none of it ends
it. -/
def IsAskable (text : Text) : Prop := ∀ c ∈ text, IsStorable c ∧ c.val ≠ 0

/-- What a file system can hold: names of a limited length, and names and targets that the
system can be asked about. -/
structure Stored (t : Tree) : Prop where
  names : ∀ {l node}, t.node? l = some node → ∀ name ∈ l,
    nameSize name ≤ nameLimit ∧ IsAskable name
  targets : ∀ {l target}, t.node? l = some (.link target) → IsAskable target

instance (text : Text) : Decidable (IsAskable text) := inferInstanceAs (Decidable (∀ c ∈ text, _))

/-- The target of an entry that is a link. -/
def linkText : Node → Text
  | .link target => target
  | _ => []

/-- Only the entries of a tree have to be looked at. -/
theorem Stored.of_entries (hentries : ∀ entry ∈ t.entries,
    (∀ name ∈ entry.1, nameSize name ≤ nameLimit ∧ IsAskable name) ∧
      IsAskable (linkText entry.2)) : t.Stored := by
  refine ⟨fun {l node} hnode => ?_, fun {l target} hnode => ?_⟩
  · by_cases hl : l = []
    · simp [hl]
    · exact (hentries _ (mem_entries_of_node? hnode hl)).1
  · have hl : l ≠ [] := by
      rintro rfl
      cases hnode
    exact (hentries _ (mem_entries_of_node? hnode hl)).2

/-- No link is found under a name where none stands, in a place without links on the way. -/
theorem find_child_ne_link (hform : t.WellFormed) (hp : p.IsReached) (hname : Path.IsName name)
    (hplace : t.Unlinked (t.placeOf p))
    (hlink : ∀ target, t.node? (t.placeOf p ++ [name]) ≠ some (.link target))
    (found : Location) (target : Text) :
    t.find false (p.child name).text ≠ .ok (found, some (.link target)) := by
  have hchild := hp.child hname
  have hworking : t.Unlinked t.workingDirectory :=
    hform.unlinked hform.workingDirectory_isDirectory (by simp)
  have hunlinked : t.Unlinked (t.placeOf (p.child name)) := by
    rw [placeOf_child hname]
    exact hplace.concat hlink
  have hway : t.IsPlainWay (t.startOf (p.child name).anchor) (p.child name).parts := by
    intro start hstart
    rcases walk_isPrefix (t := t) hchild hstart with habove | habove
    · exact hworking _ habove
    · exact hunlinked _ habove
  rw [find_reached hchild (Path.child_parts_ne_nil p name)]
  split
  · simp
  · intro hfind
    rcases @advance_of_isPlainWay t _ _ false hway with harrived | ⟨error, hrefused⟩
    · have hsame := (findFrom_of_arrived harrived).symm.trans hfind
      rw [Except.ok.injEq, Prod.mk.injEq] at hsame
      exact hway _ (List.prefix_refl _) target hsame.2
    · unfold findFrom at hfind
      rw [hrefused] at hfind
      cases hfind

/-- A link under a name is found there, if the text of its path can be looked up. -/
theorem find_child_link (hform : t.WellFormed) (hstored : t.Stored) (hp : p.IsReached)
    (hname : Path.IsName name) (hnode : t.node? (t.placeOf p ++ [name]) = some (.link target))
    (hsize : nameSize (p.child name).text ≤ pathLimit) :
    t.find false (p.child name).text = .ok (t.placeOf p ++ [name], some (.link target)) := by
  have hdirectory : t.node? (t.placeOf p) = some .directory :=
    hform.isDirectory_of_append (by simp) hnode
  have habove : ∀ {l above : Location}, t.node? l = some .directory → above <+: l →
      t.node? above = some .directory := by
    rintro l above hl ⟨rest, rfl⟩
    by_cases hrest : rest = []
    · rw [hrest, List.append_nil] at hl
      exact hl
    · exact hform.isDirectory_of_append hrest hl
  have hway : t.advance true (t.startOf p.anchor) p.parts =
      .arrived (t.placeOf p) (some .directory) := by
    refine advance_of_directories (fun start hstart => ?_) fun part hpart => ?_
    · rcases walk_isPrefix (t := t) hp hstart with hstart | hstart
      · exact habove hform.workingDirectory_isDirectory hstart
      · exact habove hdirectory hstart
    · rcases eq_up_or_mem_placeOf (t := t) hp hpart with rfl | hmem
      · decide
      · exact (hstored.names hdirectory part hmem).1
  have hshort : ¬nameSize name > nameLimit :=
    Nat.not_lt.mpr (hstored.names hnode name (by simp)).1
  rw [find_reached (hp.child hname) (Path.child_parts_ne_nil p name),
    if_neg (Nat.not_lt.mpr hsize)]
  apply findFrom_of_arrived
  have hgoes : t.advance false (t.startOf p.anchor) (p.parts ++ [name]) =
      t.advance false (t.placeOf p) [name] := advance_append_of_directory hway
  rw [Path.child, hgoes, advance_name hname hdirectory (by simp), if_neg hshort, hnode]

end Tree

end ProseCompiler
