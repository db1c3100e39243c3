import ProseCompiler.Proofs.Files.Resolving

/-!
# The way of a joined path

A path drops the pieces of its text that lead nowhere, and none of them makes a
difference to a way (`trail_busy_iff`).  So a text that is joined to a directory takes the way
that the text takes from there (`trail_join_iff`), and the system can be asked about the one
as about the other (`isAskable_join_iff`).

Where no link stands on that way, it is the walk along the pieces (`trail_of_plain`).
-/

namespace ProseCompiler

namespace Path

/-- The pieces that lead somewhere. -/
def busy (pieces : List Text) : List Text := pieces.filter fun piece => piece ≠ [] ∧ piece ≠ here

theorem ofText_parts (t : Text) : (ofText t).parts = busy (pieces t) := rfl

theorem busy_append (ps rest : List Text) : busy (ps ++ rest) = busy ps ++ busy rest :=
  List.filter_append ps rest

theorem busy_busy (ps : List Text) : busy (busy ps) = busy ps := by simp [busy]

theorem busy_of_isClean {l : Location} (hclean : l.IsClean) : busy l = l :=
  List.filter_eq_self.mpr fun name hname => by
    obtain ⟨hempty, hhere, -, -⟩ := hclean name hname
    simp [hempty, hhere]

theorem not_mem_of_mem_busy {t piece : Text} (h : piece ∈ busy (pieces t)) :
    ('/' : CodePoint) ∉ piece :=
  not_mem_of_mem_pieces (List.mem_filter.mp h).1

/-- The pieces of a path from a root that lead somewhere are its components that do. -/
theorem busy_pieces_text {p : Path} (habsolute : p.anchor ≠ .relative)
    (hslash : ∀ part ∈ p.parts, ('/' : CodePoint) ∉ part) : busy (pieces p.text) = busy p.parts := by
  obtain ⟨start, hstart, htext⟩ := Tree.text_of_isAbsolute habsolute
  have hidle : busy (pieces start) = [] := by
    rcases hstart with rfl | rfl <;> rfl
  have hparts : busy (pieces (Text.joinWith "/" p.parts)) = busy p.parts := by
    by_cases hne : p.parts = []
    · rw [hne]
      rfl
    · exact congrArg busy (Text.splitOn_joinWith hslash hne)
  have htext' : p.text = start ++ ('/' : CodePoint) :: Text.joinWith "/" p.parts := htext p.parts
  rw [htext', pieces, Text.splitOn_append_separator, ← pieces, ← pieces, busy_append, hidle,
    hparts, List.nil_append]

/-- The path of a clean location is what its text spells. -/
theorem ofText_location {l : Location} (hclean : l.IsClean) : ofText (Location.text l) = ofLocation l := by
  have hslash : ∀ name ∈ l, ('/' : CodePoint) ∉ name := fun name hname => (hclean name hname).2.2.2
  have hparts : busy (pieces (Location.text l)) = l := by
    have hbusy : busy (pieces (ofLocation l).text) = busy l :=
      busy_pieces_text (p := ofLocation l) (by simp [ofLocation]) hslash
    exact hbusy.trans (busy_of_isClean hclean)
  rw [ofText, Location.anchorOf_text hclean, ofLocation, mk.injEq]
  exact ⟨rfl, hparts⟩

end Path

namespace Tree

variable {t : Tree} {p q : Path} {ps rest : List Text} {n : Nat} {l directory : Location}
  {text : Text}

/-! ## Ways without links -/

/-- A way that no link stands on is walked. -/
theorem trail_of_plain (hslash : ∀ piece ∈ ps, ('/' : CodePoint) ∉ piece) (hl : l.IsClean)
    (hplain : t.IsPlainWay l ps) : t.Trail 0 ⟨.root, l⟩ ps ⟨.root, Location.walk l ps⟩ := by
  induction ps generalizing l with
  | nil => exact .arrived
  | cons piece rest ih =>
    have hrest := fun other hother => hslash other (List.mem_cons_of_mem piece hother)
    have hway := hplain.tail
    rw [Location.walk]
    split
    · next hidle =>
      rw [Location.walk, if_pos hidle, Location.walk] at hway
      exact .idle hidle (ih hrest hl hway)
    next hidle =>
    split
    · next hup =>
      rw [Location.walk, if_neg hidle, if_pos hup, Location.walk] at hway
      have htrail := ih hrest hl.parent hway
      rw [← above_root hl] at htrail
      exact hup ▸ .up htrail
    · next hup =>
      have hname : Path.IsName piece :=
        ⟨(not_or.mp hidle).1, (not_or.mp hidle).2, hup, hslash piece List.mem_cons_self⟩
      have hwalk : Location.walk l [piece] = l ++ [piece] := by
        rw [Location.walk, if_neg hidle, if_neg hup, Location.walk]
      rw [hwalk] at hway
      refine .name hname (fun target => ?_) (ih hrest (hl.concat hname) hway)
      rw [placeOf_root hl, ← hwalk]
      exact hplain [piece] (by simp) target

theorem Unlinked.isPlainWay (hlinks : t.Unlinked l) (hclean : l.IsClean) : t.IsPlainWay [] l := by
  intro start hstart
  rw [walk_of_isClean fun name hname => hclean name (hstart.mem hname), List.nil_append]
  exact hlinks start hstart

/-- The way to a place behind no link leads there. -/
theorem trail_of_unlinked (hlinks : t.Unlinked l) (hclean : l.IsClean) :
    t.Trail 0 ⟨.root, []⟩ l ⟨.root, l⟩ := by
  have htrail := trail_of_plain (fun name hname => (hclean name hname).2.2.2) .nil
    (hlinks.isPlainWay hclean)
  rwa [walk_of_isClean hclean, List.nil_append] at htrail

/-! ## Idle pieces -/

theorem Trail.busy (h : t.Trail n p ps q) : t.Trail n p (Path.busy ps) q := by
  induction h with
  | arrived => exact .arrived
  | @idle _ _ _ piece _ hidle _ ih =>
    have hdropped : ¬(piece ≠ [] ∧ piece ≠ Path.here) := by
      rw [not_and_or, not_not, not_not]
      exact hidle
    rwa [Path.busy, List.filter_cons_of_neg (by simpa using hdropped)]
  | up _ ih =>
    rw [Path.busy, List.filter_cons_of_pos (by decide)]
    exact .up ih
  | name hname hlink _ ih =>
    rw [Path.busy, List.filter_cons_of_pos (by simp [hname.1, hname.2.1])]
    exact .name hname hlink ih
  | link hname hnode hsize htarget _ _ ih =>
    rw [Path.busy, List.filter_cons_of_pos (by simp [hname.1, hname.2.1])]
    exact .link hname hnode hsize htarget ih

/-- Pieces that lead nowhere make no difference to a way. -/
theorem trail_busy_iff : t.Trail n p (Path.busy ps) q ↔ t.Trail n p ps q := by
  refine ⟨fun h => ?_, Trail.busy⟩
  induction ps generalizing n p with
  | nil => exact h
  | cons piece rest ih =>
    by_cases hidle : piece = [] ∨ piece = Path.here
    · have hdropped : ¬(piece ≠ [] ∧ piece ≠ Path.here) := by
        rw [not_and_or, not_not, not_not]
        exact hidle
      rw [Path.busy, List.filter_cons_of_neg (by simpa using hdropped)] at h
      exact .idle hidle (ih h)
    · rw [Path.busy, List.filter_cons_of_pos (by simpa [not_or] using hidle)] at h
      cases h with
      | idle hidle' _ => exact absurd hidle' hidle
      | up hrest => exact .up (ih hrest)
      | name hname hlink hrest => exact .name hname hlink (ih hrest)
      | link hname hnode hsize htarget hrest => exact .link hname hnode hsize htarget (ih hrest)

/-! ## Joined paths -/

/-- The way of a path from a root is that of its components. -/
theorem trail_text_iff (habsolute : p.anchor ≠ .relative)
    (hslash : ∀ part ∈ p.parts, ('/' : CodePoint) ∉ part) :
    t.Trail n (startPath p.text) (Path.pieces p.text) q ↔ t.Trail n ⟨.root, []⟩ p.parts q := by
  rw [← trail_busy_iff, Path.busy_pieces_text habsolute hslash, trail_busy_iff, startPath,
    if_neg (anchorOf_text_of_isAbsolute habsolute)]

/-- A place behind no link resolves to itself, if the system can be asked about it. -/
theorem resolve_of_unlinked (hform : t.WellFormed) (hstored : t.Stored) (hlinks : t.Unlinked l)
    (hclean : l.IsClean) (hcheck : checkPath (Location.text l) = .ok ()) :
    t.resolve (Path.ofLocation l) = .ok l := by
  have htrail := (trail_text_iff (p := Path.ofLocation l) (by simp [Path.ofLocation])
    fun name hname => (hclean name hname).2.2.2).mpr (trail_of_unlinked hlinks hclean)
  rw [resolve_of_trail hform hstored htrail (by decide) (isAskable_iff.mpr hcheck)]
  exact congrArg Except.ok (placeOf_root hclean)

theorem slash_not_mem_join (hclean : directory.IsClean) :
    ∀ part ∈ ((Path.ofLocation directory).join (Path.ofText text)).parts,
      ('/' : CodePoint) ∉ part := by
  intro part hpart
  rw [Path.join] at hpart
  split at hpart
  · exact Path.not_mem_of_mem_busy hpart
  · rcases List.mem_append.mp hpart with hpart | hpart
    · exact (hclean part hpart).2.2.2
    · exact Path.not_mem_of_mem_busy hpart

theorem join_isAbsolute (directory : Location) (p : Path) :
    ((Path.ofLocation directory).join p).anchor ≠ .relative := by
  rw [Path.join]
  split
  · next habsolute => exact bne_iff_ne.mp habsolute
  · simp [Path.ofLocation]

/-- The components of a joined path: those of the directory, unless the text starts at a root,
and the pieces of the text that lead somewhere. -/
theorem join_parts (directory : Location) (text : Text) :
    ((Path.ofLocation directory).join (Path.ofText text)).parts =
      (if Path.anchorOf text = .relative then directory else []) ++
        Path.busy (Path.pieces text) := by
  rw [Path.join]
  by_cases hanchor : Path.anchorOf text = .relative
  · have hrelative : ¬(Path.ofText text).isAbsolute = true := by
      simp [Path.isAbsolute, Path.ofText, hanchor]
    rw [if_neg hrelative, if_pos hanchor]
    rfl
  · have habsolute : (Path.ofText text).isAbsolute = true := bne_iff_ne.mpr hanchor
    rw [if_pos habsolute, if_neg hanchor, List.nil_append, Path.ofText_parts]

/-- A text that is joined to a directory behind no link takes the way that it takes from
there. -/
theorem trail_join_iff (hlinks : t.Unlinked directory) (hclean : directory.IsClean) :
    t.Trail n (startPath ((Path.ofLocation directory).join (Path.ofText text)).text)
        (Path.pieces ((Path.ofLocation directory).join (Path.ofText text)).text) q ↔
      t.Trail n (linkStart ⟨.root, directory⟩ text) (Path.pieces text) q := by
  rw [trail_text_iff (join_isAbsolute directory _) (slash_not_mem_join hclean), join_parts,
    linkStart]
  split
  · rw [Trail.append_iff]
    constructor
    · rintro ⟨m, k, mid, hstart, hrest, rfl⟩
      obtain ⟨rfl, rfl⟩ := hstart.unique (trail_of_unlinked hlinks hclean)
      rw [Nat.zero_max]
      exact trail_busy_iff.mp hrest
    · intro h
      exact ⟨0, n, _, trail_of_unlinked hlinks hclean, trail_busy_iff.mpr h,
        (Nat.zero_max n).symm⟩
  · rw [List.nil_append, trail_busy_iff]

/-- A text that is joined to a directory is made of what the text is made of, if the directory
is made of such code points as well. -/
theorem forall_mem_join_iff {P : CodePoint → Prop} (hslash : P '/') (hdot : P '.')
    (hdirectory : ∀ name ∈ directory, ∀ c ∈ name, P c) :
    (∀ c ∈ ((Path.ofLocation directory).join (Path.ofText text)).text, P c) ↔ ∀ c ∈ text, P c := by
  have hparts := join_parts directory text
  have habsolute := join_isAbsolute directory (Path.ofText text)
  generalize (Path.ofLocation directory).join (Path.ofText text) = joined at hparts habsolute ⊢
  constructor
  · intro h c hc
    by_cases hc' : c = '/'
    · exact hc' ▸ hslash
    obtain ⟨piece, hpiece, hmem⟩ := Text.exists_mem_splitOn hc hc'
    by_cases hidle : piece = [] ∨ piece = Path.here
    · rcases hidle with rfl | rfl
      · cases hmem
      · rwa [List.mem_singleton.mp hmem]
    · have hbusy : piece ∈ Path.busy (Path.pieces text) :=
        List.mem_filter.mpr ⟨hpiece, by simpa [not_or] using hidle⟩
      have hpart : piece ∈ joined.parts := hparts ▸ List.mem_append_right _ hbusy
      exact h c (mem_text_of_mem_part hpart hmem hc')
  · intro h c hc
    rcases eq_slash_or_of_mem_text (fun hnone => habsolute hnone.1) hc with rfl | ⟨part, hpart, hc⟩
    · exact hslash
    rw [hparts] at hpart
    rcases List.mem_append.mp hpart with hpart | hpart
    · split at hpart
      · exact hdirectory part hpart c hc
      · cases hpart
    · exact h c (Text.mem_of_mem_splitOn (List.mem_filter.mp hpart).1 hc)

/-- The system can be asked about a text that is joined to a directory just if it can be asked
about the text. -/
theorem isAskable_join_iff (hdirectory : ∀ name ∈ directory, IsAskable name) :
    IsAskable ((Path.ofLocation directory).join (Path.ofText text)).text ↔ IsAskable text :=
  forall_mem_join_iff (P := fun c => IsStorable c ∧ c.val ≠ 0) (by decide) (by decide) hdirectory

end Tree

end ProseCompiler
