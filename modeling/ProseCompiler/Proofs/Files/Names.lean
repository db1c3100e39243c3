import ProseCompiler.Proofs.Document.Target
import ProseCompiler.Proofs.Files.Unlinked

/-!
# The name of a resolved path

A path is resolved piece by piece, and only a link under its last name can give the place
that it stands for another name: `name_of_resolve_of_not_meetsLink`.  The last name is looked
up behind what the pieces before it come to (`resolvePieces_append`).  If a link on the way
leads back into itself, the rest of the path is taken as it stands, and so is its last name.

What every step of a resolution keeps holds all along it (`Invariant.Kept.resolveWithin`).  So
from a root, the pieces before the last one come to a directory, whatever links lead there
(`resolveWithin_staysAnchored`), and the link is one in that directory: `name_of_resolve`.
-/

namespace ProseCompiler

/-! ## The last piece of a text -/

namespace Text

variable {separator : CodePoint}

theorem splitOn_append_separator (s t : Text) :
    splitOn separator (s ++ separator :: t) = splitOn separator s ++ splitOn separator t := by
  induction s with
  | nil => simp
  | cons c s ih =>
    by_cases hc : c = separator
    · rw [hc, List.cons_append, splitOn_cons_self, splitOn_cons_self, ih, List.cons_append]
    · obtain ⟨piece, pieces, hpieces⟩ := List.exists_cons_of_ne_nil (splitOn_ne_nil separator s)
      rw [hpieces, List.cons_append] at ih
      rw [List.cons_append, splitOn_cons_of_ne hc ih, splitOn_cons_of_ne hc hpieces,
        List.cons_append]

/-- What is behind a text without separators at its end becomes part of its last piece. -/
theorem splitOn_append_of_not_mem {ending : Text} (hending : separator ∉ ending) (s : Text) :
    ∃ before last, splitOn separator s = before ++ [last] ∧
      splitOn separator (s ++ ending) = before ++ [last ++ ending] := by
  induction s with
  | nil => exact ⟨[], [], rfl, splitOn_of_not_mem hending⟩
  | cons c s ih =>
    obtain ⟨before, last, hsplit, hlonger⟩ := ih
    by_cases hc : c = separator
    · refine ⟨[] :: before, last, ?_, ?_⟩
      · rw [hc, splitOn_cons_self, hsplit, List.cons_append]
      · rw [hc, List.cons_append, splitOn_cons_self, hlonger, List.cons_append]
    · cases before with
      | nil => exact ⟨[], c :: last, splitOn_cons_of_ne hc hsplit, splitOn_cons_of_ne hc hlonger⟩
      | cons piece before =>
        exact ⟨(c :: piece) :: before, last, splitOn_cons_of_ne hc hsplit,
          splitOn_cons_of_ne hc hlonger⟩

theorem joinWith_concat (s : Text) {pieces : List Text} (hne : pieces ≠ []) (piece : Text) :
    joinWith s (pieces ++ [piece]) = joinWith s pieces ++ s ++ piece := by
  induction pieces with
  | nil => exact absurd rfl hne
  | cons first rest ih =>
    cases rest with
    | nil => rfl
    | cons second rest =>
      rw [List.cons_append, List.cons_append, joinWith_cons_cons, ← List.cons_append,
        ih (List.cons_ne_nil _ _), joinWith_cons_cons]
      simp

end Text

namespace Path

/-- The last piece of a text between slashes. -/
def lastPiece? (t : Text) : Option Text := (pieces t).getLast?

theorem lastPiece?_append (s t : Text) :
    lastPiece? (s ++ ('/' : CodePoint) :: t) = lastPiece? t := by
  have hne : pieces t ≠ [] := Text.splitOn_ne_nil '/' t
  rw [lastPiece?, lastPiece?, pieces, Text.splitOn_append_separator, ← pieces, ← pieces,
    List.getLast?_append, List.getLast?_eq_some_getLast hne, Option.some_or]

theorem lastPiece?_joinWith {name : Text} (hslash : ('/' : CodePoint) ∉ name)
    (before : List Text) : lastPiece? (Text.joinWith "/" (before ++ [name])) = some name := by
  have hname : lastPiece? name = some name := by
    rw [lastPiece?, pieces, Text.splitOn_of_not_mem hslash]
    rfl
  by_cases hbefore : before = []
  · rw [hbefore]
    exact hname
  · rw [Text.joinWith_concat _ hbefore, List.append_assoc]
    exact (lastPiece?_append _ name).trans hname

/-- A path with a last name has it behind its other components. -/
theorem parts_of_name (p : Path) (h : p.name ≠ []) : ∃ before, p.parts = before ++ [p.name] := by
  rw [name] at h ⊢
  cases hlast : p.parts.getLast? with
  | none =>
    rw [hlast] at h
    exact absurd rfl h
  | some last => exact List.getLast?_eq_some_iff.mp hlast

/-- The last component of a path is a name that ends with a text. -/
def EndsWith (p : Path) (ending : Text) : Prop :=
  IsName p.name ∧ Text.endsWith p.name ending = true

instance (p : Path) (ending : Text) : Decidable (p.EndsWith ending) :=
  inferInstanceAs (Decidable (_ ∧ _))

theorem name_of_parts {p : Path} {before : List Text} {last : Text}
    (h : p.parts = before ++ [last]) : p.name = last := by
  rw [name, h, List.getLast?_concat, Option.getD_some]

/-- A path whose text ends with something that is part of names ends with such a name. -/
theorem ofText_endsWith {t ending : Text} (hslash : ('/' : CodePoint) ∉ ending) (hne : ending ≠ [])
    (hhere : ending ≠ here) (hup : ending ≠ up) (h : Text.endsWith t ending = true) :
    (ofText t).EndsWith ending := by
  obtain ⟨s, rfl⟩ := List.isSuffixOf_iff_suffix.mp h
  obtain ⟨before, last, -, hpieces⟩ := Text.splitOn_append_of_not_mem hslash s
  have hname : IsName (last ++ ending) := by
    refine ⟨by simp [hne], fun heq => ?_, fun heq => ?_,
      not_mem_of_mem_pieces (hpieces ▸ List.mem_append_right before (List.mem_singleton_self _))⟩
    · rcases List.append_eq_singleton_iff.mp heq with ⟨-, h⟩ | ⟨-, h⟩
      · exact hhere h
      · exact hne h
    · rcases List.append_eq_cons_iff.mp heq with ⟨-, h⟩ | ⟨rest, -, h⟩
      · exact hup h
      · rcases List.append_eq_singleton_iff.mp h.symm with ⟨-, h⟩ | ⟨-, h⟩
        · exact hhere h
        · exact hne h
  have hparts : (ofText (s ++ ending)).parts =
      before.filter (fun piece => piece ≠ [] ∧ piece ≠ here) ++ [last ++ ending] := by
    rw [ofText, pieces, hpieces, List.filter_append]
    simp [hname.1, hname.2.1]
  rw [EndsWith, name_of_parts hparts]
  exact ⟨hname, List.isSuffixOf_iff_suffix.mpr (List.suffix_append last ending)⟩

/-- A path seen from a place starts at a root and has the same last name. -/
theorem name_join (l : Location) {q : Path} (h : q.name ≠ []) :
    ((ofLocation l).join q).anchor ≠ .relative ∧ ((ofLocation l).join q).name = q.name := by
  rw [join]
  split
  · next habsolute => exact ⟨bne_iff_ne.mp habsolute, rfl⟩
  · obtain ⟨before, hparts⟩ := q.parts_of_name h
    have hjoined : l ++ q.parts = (l ++ before) ++ [q.name] := by
      rw [List.append_assoc, ← hparts]
    exact ⟨by simp [ofLocation], name_of_parts hjoined⟩

end Path

namespace Location

theorem walk_append (l : Location) (first second : List Text) :
    walk l (first ++ second) = walk (walk l first) second := by
  induction first generalizing l with
  | nil => rfl
  | cons piece first ih =>
    rw [List.cons_append, walk, walk]
    split
    · exact ih l
    · split <;> exact ih _

/-- A text that ends with a name leads to a place of that name. -/
theorem name_ofText {t name : Text} (hname : Path.IsName name)
    (hlast : Path.lastPiece? t = some name) (start : Location) :
    Location.name (ofText start t) = name := by
  obtain ⟨before, hpieces⟩ := List.getLast?_eq_some_iff.mp hlast
  obtain ⟨hempty, hhere, hup, -⟩ := hname
  rw [ofText, hpieces, walk_append, walk, if_neg (not_or.mpr ⟨hempty, hhere⟩), if_neg hup, walk,
    Location.name, List.getLast?_concat]
  rfl

end Location

/-! ## Resolution -/

/-- A path from the root that is made of names. -/
structure Path.IsAnchored (p : Path) : Prop where
  anchor : p.anchor = .root
  isClean : Location.IsClean p.parts

namespace Tree

variable {t : Tree} {followed followed' : Followed} {path path' : Path} {ps : List Text}
  {name : Text}
  {follow : Followed → Path → List Text → Except Fault Resolution}

/-- Every path that a followed link stands for has a property. -/
def Followed.All (Q : Path → Prop) (followed : Followed) : Prop :=
  ∀ {text known}, (text, some known) ∈ followed → Q known

section All

variable {Q : Path → Prop}

theorem Followed.All.cons_none (h : Followed.All Q followed) (text : Text) :
    Followed.All Q ((text, none) :: followed) := by
  intro other known hmem
  rcases List.mem_cons.mp hmem with heq | hmem
  · cases heq
  · exact h hmem

theorem Followed.All.cons_some (h : Followed.All Q followed) (text : Text) (hpath : Q path) :
    Followed.All Q ((text, some path) :: followed) := by
  intro other known hmem
  rcases List.mem_cons.mp hmem with heq | hmem
  · cases heq
    exact hpath
  · exact h hmem

theorem Followed.All.of_lookup {text : Text} (h : Followed.All Q followed)
    (hlookup : followed.lookup text = some (some path)) : Q path := by
  obtain ⟨before, after, rfl, -⟩ := List.lookup_eq_some_iff.mp hlookup
  exact h (List.mem_append_right before List.mem_cons_self)

end All

/-! ## What holds all along a resolution -/

/-- What holds of the paths that a resolution goes through, of the pieces that it takes, of the
texts at which links lead back into themselves, and of the faults that it ends with. -/
structure Invariant where
  onPath : Path → Prop
  onPiece : Text → Prop
  onText : Text → Prop
  onFault : Fault → Prop

namespace Invariant

variable {I : Invariant}

/-- The invariant holds of what a resolution ends with. -/
def AtEnd (I : Invariant) : Except Fault Resolution → Prop
  | .ok (.resolved path followed) => I.onPath path ∧ Followed.All I.onPath followed
  | .ok (.looped text) => I.onText text
  | .error fault => I.onFault fault

/-- A resolution of what the invariant holds of ends with what it holds of. -/
def Along (I : Invariant)
    (follow : Followed → Path → List Text → Except Fault Resolution) : Prop :=
  ∀ {followed path pieces}, Followed.All I.onPath followed → I.onPath path →
    (∀ piece ∈ pieces, I.onPiece piece) → I.AtEnd (follow followed path pieces)

/-- Every single step that a resolution takes in a tree keeps the invariant. -/
structure Kept (I : Invariant) (t : Tree) : Prop where
  root : I.onPath ⟨.root, []⟩
  above : ∀ {path}, I.onPath path → I.onPath (above path)
  child : ∀ {path piece}, I.onPath path → I.onPiece piece → piece ≠ [] → piece ≠ Path.here →
    piece ≠ Path.up → I.onPath ⟨path.anchor, path.parts ++ [piece]⟩
  target : ∀ {l target}, t.node? l = some (.link target) →
    ∀ piece ∈ Path.pieces target, I.onPiece piece
  text : ∀ {path}, I.onPath path → I.onText path.text
  withRest : ∀ {text rest}, I.onText text → (∀ piece ∈ rest, I.onPiece piece) →
    I.onText (withRest text rest)
  refused : ∀ {path fault}, I.onPath path → checkPath path.text = .error fault → I.onFault fault
  tooDeep : I.onFault (.tooDeep "maximum recursion depth exceeded")

theorem Kept.resolvePieces (hkept : I.Kept t) (hfollow : I.Along follow) :
    I.Along (t.resolvePieces follow) := by
  intro followed path pieces hfollowed hpath hpieces
  induction pieces generalizing followed path with
  | nil => exact ⟨hpath, hfollowed⟩
  | cons piece rest ih =>
    obtain ⟨hpiece, hrest⟩ := List.forall_mem_cons.mp hpieces
    rw [Tree.resolvePieces]
    split
    · exact ih hfollowed hpath hrest
    next hidle =>
    split
    · exact ih hfollowed (hkept.above hpath) hrest
    next hup =>
    rw [not_or] at hidle
    have hnext : I.onPath ⟨path.anchor, path.parts ++ [piece]⟩ :=
      hkept.child hpath hpiece hidle.1 hidle.2 hup
    simp only
    split
    · next hcheck => exact hkept.refused hnext hcheck
    split
    · next found target hfind =>
      split
      · next known hknown => exact ih hfollowed (Followed.All.of_lookup hfollowed hknown) hrest
      · exact hkept.withRest (hkept.text hnext) hrest
      · have hstart : I.onPath
            (if Path.anchorOf target = .relative then path else ⟨.root, []⟩) := by
          split
          · exact hpath
          · exact hkept.root
        have hbehind := hfollow
          (Followed.All.cons_none hfollowed (Path.text ⟨path.anchor, path.parts ++ [piece]⟩))
          hstart (hkept.target (node?_of_find hfind).symm)
        split
        · next hfails =>
          rw [hfails] at hbehind
          exact hbehind
        · next hlooped =>
          rw [hlooped] at hbehind
          exact hkept.withRest hbehind hrest
        · next hresolved =>
          rw [hresolved] at hbehind
          exact ih (Followed.All.cons_some hbehind.2 _ hbehind.1) hbehind.1 hrest
    · exact ih hfollowed hnext hrest

theorem Kept.resolveWithin (hkept : I.Kept t) (depth : Nat) : I.Along (t.resolveWithin depth) := by
  induction depth with
  | zero => exact fun _ _ _ => hkept.tooDeep
  | succ depth ih => exact hkept.resolvePieces ih

end Invariant

/-! ## Paths from the root -/

/-- Every link that was followed stands for a path from the root. -/
def Followed.IsAnchored (followed : Followed) : Prop :=
  ∀ {text known}, (text, some known) ∈ followed → Path.IsAnchored known

/-- What a resolution has come to is a path from the root, and so is what it remembers. -/
def Resolution.IsAnchored : Resolution → Prop
  | .resolved path followed => path.IsAnchored ∧ Followed.IsAnchored followed
  | .looped _ => True

/-- Resolving from a path from the root comes to such a path. -/
def StaysAnchored (follow : Followed → Path → List Text → Except Fault Resolution) : Prop :=
  ∀ {followed path pieces resolution}, Followed.IsAnchored followed → Path.IsAnchored path →
    (∀ piece ∈ pieces, ('/' : CodePoint) ∉ piece) →
    follow followed path pieces = .ok resolution → resolution.IsAnchored

theorem above_isAnchored (h : path.IsAnchored) : (above path).IsAnchored := by
  obtain ⟨hanchor, hclean⟩ := h
  rw [above]
  split
  · rw [Path.isAbsolute, hanchor, if_pos (by decide)]
    exact ⟨hanchor, hclean⟩
  · next last hlast =>
    have hup : last ≠ Path.up := (hclean last (List.mem_of_getLast? hlast)).2.2.1
    rw [if_neg hup]
    exact ⟨hanchor, hclean.parent⟩

/-- Paths from the root lead to such paths; of the pieces it is enough that no separator is in
them. -/
def anchored : Invariant where
  onPath := Path.IsAnchored
  onPiece piece := ('/' : CodePoint) ∉ piece
  onText _ := True
  onFault _ := True

theorem anchored_kept : anchored.Kept t where
  root := ⟨rfl, .nil⟩
  above := above_isAnchored
  child hpath hslash hempty hhere hup :=
    ⟨hpath.anchor, hpath.isClean.concat ⟨hempty, hhere, hup, hslash⟩⟩
  target _ _ := Path.not_mem_of_mem_pieces
  text _ := trivial
  withRest _ _ := trivial
  refused _ _ := trivial
  tooDeep := trivial

theorem resolveWithin_staysAnchored (depth : Nat) : StaysAnchored (t.resolveWithin depth) := by
  intro followed path pieces resolution hfollowed hpath hpieces h
  have hend : anchored.AtEnd (t.resolveWithin depth followed path pieces) :=
    anchored_kept.resolveWithin depth hfollowed hpath hpieces
  rw [h] at hend
  cases resolution with
  | resolved path followed => exact hend
  | looped text => trivial

/-- A text behind pieces that were not looked at ends with the last of them. -/
theorem lastPiece?_withRest (hname : ('/' : CodePoint) ∉ name) (start : Text)
    (before : List Text) : Path.lastPiece? (withRest start (before ++ [name])) = some name := by
  have hlast := Path.lastPiece?_joinWith hname before
  rw [withRest]
  split
  · exact hlast
  · split
    · next hstart =>
      rcases hstart with rfl | hslash
      · exact hlast
      · obtain ⟨start, rfl⟩ := List.getLast?_eq_some_iff.mp hslash
        rw [List.append_assoc]
        exact (Path.lastPiece?_append start _).trans hlast
    · rw [List.append_assoc]
      exact (Path.lastPiece?_append start _).trans hlast

/-- A resolution with further pieces behind it fails as it did without them, loops with
them at the end, or goes on with them. -/
theorem resolvePieces_append (followed : Followed) (path : Path) (ps rest : List Text) :
    (∃ fault, t.resolvePieces follow followed path ps = .error fault ∧
      t.resolvePieces follow followed path (ps ++ rest) = .error fault) ∨
    (∃ start before, t.resolvePieces follow followed path ps =
        .ok (.looped (withRest start before)) ∧
      t.resolvePieces follow followed path (ps ++ rest) =
        .ok (.looped (withRest start (before ++ rest)))) ∨
    ∃ path' followed', t.resolvePieces follow followed path ps = .ok (.resolved path' followed') ∧
      t.resolvePieces follow followed path (ps ++ rest) =
        t.resolvePieces follow followed' path' rest := by
  induction ps generalizing followed path with
  | nil => exact .inr (.inr ⟨path, followed, rfl, rfl⟩)
  | cons piece before ih =>
    rw [List.cons_append, resolvePieces, resolvePieces]
    split
    · exact ih followed path
    · split
      · exact ih followed (above path)
      · simp only
        split
        · exact .inl ⟨_, rfl, rfl⟩
        · split
          · split
            · exact ih followed _
            · exact .inr (.inl ⟨_, before, rfl, rfl⟩)
            · split
              · exact .inl ⟨_, rfl, rfl⟩
              · exact .inr (.inl ⟨_, before, rfl, rfl⟩)
              · exact ih _ _
          · exact ih followed _

theorem resolvePieces_append_of_resolved
    (h : t.resolvePieces follow followed path ps = .ok (.resolved path' followed'))
    (rest : List Text) : t.resolvePieces follow followed path (ps ++ rest) =
      t.resolvePieces follow followed' path' rest := by
  rcases resolvePieces_append followed path ps rest with
    ⟨_, hself, -⟩ | ⟨_, _, hself, -⟩ | ⟨_, _, hself, hlonger⟩
  · cases h.symm.trans hself
  · cases h.symm.trans hself
  · cases h.symm.trans hself
    exact hlonger

/-- A last name that is no link stays as it is. -/
theorem resolvePieces_name {resolution : Resolution} (hname : Path.IsName name)
    (hlink : ∀ place target, t.find false (Path.text ⟨path.anchor, path.parts ++ [name]⟩) ≠
      .ok (place, some (.link target)))
    (h : t.resolvePieces follow followed path [name] = .ok resolution) :
    resolution = .resolved ⟨path.anchor, path.parts ++ [name]⟩ followed := by
  rw [resolvePieces, if_neg (not_or.mpr ⟨hname.1, hname.2.1⟩), if_neg hname.2.2.1] at h
  simp only at h
  split at h
  · cases h
  · cases h
    rfl

/-! ## Names of places -/

theorem anchorOf_ne_relative (text : Text) :
    Path.anchorOf (('/' : CodePoint) :: text) ≠ .relative := by
  rw [Path.anchorOf, List.takeWhile_cons, if_pos (by simp), List.length_cons]
  split
  · next h => cases h
  · simp
  · simp

/-- The text of a path from a root has a slash before its components. -/
theorem text_of_isAbsolute {anchor : Anchor} (habsolute : anchor ≠ .relative) :
    ∃ start : Text, (start = [] ∨ start = [('/' : CodePoint)]) ∧ ∀ parts,
      Path.text ⟨anchor, parts⟩ = start ++ ('/' : CodePoint) :: Text.joinWith "/" parts := by
  cases anchor with
  | relative => exact absurd rfl habsolute
  | root => exact ⟨[], .inl rfl, fun _ => rfl⟩
  | doubleRoot => exact ⟨[('/' : CodePoint)], .inr rfl, fun _ => rfl⟩

theorem anchorOf_text_of_isAbsolute (habsolute : path.anchor ≠ .relative) :
    Path.anchorOf path.text ≠ .relative := by
  obtain ⟨start, rfl | rfl, htext⟩ := text_of_isAbsolute habsolute
  · rw [htext path.parts]
    exact anchorOf_ne_relative _
  · rw [htext path.parts]
    exact anchorOf_ne_relative _

/-- Pieces that come to a path from the root come to its place. -/
theorem realPlace_of_resolved {text : Text} (habsolute : Path.anchorOf text ≠ .relative)
    (hpath : path.IsAnchored)
    (h : t.resolveWithin resolveDepth [] ⟨.root, []⟩ (Path.pieces text) =
      .ok (.resolved path followed)) : t.realPlace text = .ok path.parts := by
  obtain ⟨anchor, parts⟩ := path
  obtain rfl : anchor = .root := hpath.anchor
  have hreached : reachedText ⟨.root, parts⟩ = Location.text parts := by
    rw [reachedText, if_neg (by simp), anchored_text]
  rw [realPlace, if_neg habsolute]
  simp only [h, hreached, ofText_text hpath.isClean]

/-- A link stands under the last name of a path, in the directory that the rest of the
path stands for. -/
def NamesLink (t : Tree) (path : Path) : Prop :=
  ∃ directory place target, t.realPlace path.parent.text = .ok directory ∧
    t.find false (Location.text (directory ++ [path.name])) = .ok (place, some (.link target))

/-- A link stands under the last name of a path, behind what the rest of the path is
resolved to. -/
def MeetsLink (t : Tree) (path : Path) : Prop :=
  let start : Path := if Path.anchorOf path.text = .relative then ⟨.relative, []⟩ else ⟨.root, []⟩
  ∃ reached followed place target,
    t.resolveWithin resolveDepth [] start (Path.pieces path.parent.text) =
      .ok (.resolved reached followed) ∧
    t.find false (Path.text ⟨reached.anchor, reached.parts ++ [path.name]⟩) =
      .ok (place, some (.link target))

/-- For a path from a root, what the rest of the path is resolved to is a directory. -/
theorem MeetsLink.namesLink (h : t.MeetsLink path) (habsolute : path.anchor ≠ .relative) :
    t.NamesLink path := by
  obtain ⟨⟨anchor, parts⟩, followed, place, target, hresolved, hfound⟩ := h
  rw [if_neg (anchorOf_text_of_isAbsolute habsolute)] at hresolved
  have hanchored : Path.IsAnchored ⟨anchor, parts⟩ :=
    (resolveWithin_staysAnchored resolveDepth (fun h => absurd h List.not_mem_nil) ⟨rfl, .nil⟩
      (fun piece => Path.not_mem_of_mem_pieces) hresolved).1
  obtain rfl : anchor = .root := hanchored.anchor
  have hparent : path.parent.anchor ≠ .relative := habsolute
  exact ⟨parts, place, target,
    realPlace_of_resolved (anchorOf_text_of_isAbsolute hparent) hanchored hresolved, hfound⟩

theorem pieces_joinWith_concat {before : List Text} (hname : ('/' : CodePoint) ∉ name)
    (hbefore : before ≠ []) : Path.pieces (Text.joinWith "/" (before ++ [name])) =
      Path.pieces (Text.joinWith "/" before) ++ [name] := by
  have hjoin : Text.joinWith "/" (before ++ [name]) =
      Text.joinWith "/" before ++ ('/' : CodePoint) :: name := by
    rw [Text.joinWith_concat _ hbefore, List.append_assoc]
    rfl
  rw [hjoin, Path.pieces, Path.pieces, Text.splitOn_append_separator,
    Text.splitOn_of_not_mem hname]

/-- The pieces of a path are those of the path above it and its last name, but for an idle
one. -/
theorem pieces_of_name (hname : Path.IsName path.name) :
    ∃ ps idle, Path.pieces path.text = ps ++ [path.name] ∧
      (idle = [] ∨ idle = [[]] ∨ idle = [Path.here]) ∧
      Path.pieces path.parent.text = ps ++ idle := by
  obtain ⟨before, hparts⟩ := path.parts_of_name hname.1
  obtain ⟨anchor, parts⟩ := path
  generalize Path.name ⟨anchor, parts⟩ = name at hname hparts ⊢
  obtain rfl : parts = before ++ [name] := hparts
  have hlast : Path.pieces name = [name] := Text.splitOn_of_not_mem hname.2.2.2
  have hparent : Path.parent ⟨anchor, before ++ [name]⟩ = ⟨anchor, before⟩ := by
    rw [Path.parent, List.dropLast_concat]
  rw [hparent]
  by_cases hanchor : anchor = .relative
  · subst hanchor
    have hself : Path.text ⟨.relative, before ++ [name]⟩ =
        Text.joinWith "/" (before ++ [name]) := by
      rw [Path.text, if_neg (by simp)]
      rfl
    by_cases hbefore : before = []
    · subst hbefore
      exact ⟨[], [Path.here], by rw [hself]; exact hlast, .inr (.inr rfl), rfl⟩
    · have habove : Path.text ⟨.relative, before⟩ = Text.joinWith "/" before := by
        rw [Path.text, if_neg fun h => hbefore h.2]
        rfl
      refine ⟨Path.pieces (Text.joinWith "/" before), [], ?_, .inl rfl, ?_⟩
      · rw [hself, pieces_joinWith_concat hname.2.2.2 hbefore]
      · rw [habove, List.append_nil]
  · obtain ⟨start, -, htext⟩ := text_of_isAbsolute hanchor
    rw [htext, htext, Path.pieces, Path.pieces, Text.splitOn_append_separator,
      Text.splitOn_append_separator, ← Path.pieces, ← Path.pieces, ← Path.pieces]
    by_cases hbefore : before = []
    · subst hbefore
      exact ⟨Path.pieces start, [[]], congrArg _ hlast, .inr (.inl rfl), rfl⟩
    · refine ⟨Path.pieces start ++ Path.pieces (Text.joinWith "/" before), [], ?_, .inl rfl,
        (List.append_nil _).symm⟩
      rw [pieces_joinWith_concat hname.2.2.2 hbefore, List.append_assoc]

/-- The text of a path ends with its last name. -/
theorem lastPiece?_text {parts : List Text} (hslash : ('/' : CodePoint) ∉ name)
    (anchor : Anchor) : Path.lastPiece? (Path.text ⟨anchor, parts ++ [name]⟩) = some name := by
  have hjoin := Path.lastPiece?_joinWith hslash parts
  by_cases hanchor : anchor = .relative
  · rw [hanchor, Path.text, if_neg (by simp)]
    exact hjoin
  · obtain ⟨start, -, htext⟩ := text_of_isAbsolute hanchor
    rw [htext]
    exact (Path.lastPiece?_append start _).trans hjoin

/-- A last name under which no link is met is the name of the place. -/
theorem name_of_resolve_of_not_meetsLink {place : Location} (hname : Path.IsName path.name)
    (hlink : ¬t.MeetsLink path) (h : t.resolve path = .ok place) :
    Location.name place = path.name := by
  obtain ⟨ps, idle, hpieces, hidle, hparent⟩ := pieces_of_name hname
  replace h := realPlace_of_resolve h
  obtain ⟨depth, hdepth⟩ : ∃ depth, t.resolveWithin resolveDepth =
      t.resolvePieces (t.resolveWithin depth) := ⟨resolveDepth - 1, rfl⟩
  rw [realPlace, hpieces, hdepth] at h
  rw [MeetsLink, hparent, hdepth] at hlink
  generalize (if Path.anchorOf path.text = .relative then ⟨.relative, []⟩ else ⟨.root, []⟩ : Path) =
    start at h hlink
  rcases @resolvePieces_append t (t.resolveWithin depth) [] start ps [path.name] with
    ⟨_, -, hfails⟩ | ⟨stop, rest, -, hloops⟩ | ⟨reached, followed, hresolved, hgoes⟩
  · rw [hfails] at h
    cases h
  · rw [hloops] at h
    cases h
    exact Location.name_ofText hname (lastPiece?_withRest hname.2.2.2 stop rest) _
  · have habove : t.resolvePieces (t.resolveWithin depth) [] start (ps ++ idle) =
        .ok (.resolved reached followed) := by
      rw [resolvePieces_append_of_resolved hresolved]
      rcases hidle with rfl | rfl | rfl <;> rfl
    have hplain : ∀ place target,
        t.find false (Path.text ⟨reached.anchor, reached.parts ++ [path.name]⟩) ≠
          .ok (place, some (.link target)) := fun place target hfound =>
      hlink ⟨reached, followed, place, target, habove, hfound⟩
    rw [hgoes] at h
    cases hgo : t.resolvePieces (t.resolveWithin depth) followed reached [path.name] with
    | error fault =>
      rw [hgo] at h
      cases h
    | ok resolution =>
      obtain rfl := resolvePieces_name hname hplain hgo
      rw [hgo] at h
      cases h
      rw [reachedText, if_neg (by simp)]
      exact Location.name_ofText hname (lastPiece?_text hname.2.2.2 reached.anchor) _

/-- A last name that is no link is the name of the place. -/
theorem name_of_resolve {place : Location} (habsolute : path.anchor ≠ .relative)
    (hname : Path.IsName path.name) (hlink : ¬t.NamesLink path) (h : t.resolve path = .ok place) :
    Location.name place = path.name :=
  name_of_resolve_of_not_meetsLink hname (fun hmeets => hlink (hmeets.namesLink habsolute)) h

end Tree

end ProseCompiler
