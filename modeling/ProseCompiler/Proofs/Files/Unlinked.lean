import ProseCompiler.Proofs.Files.LinkFree

/-!
# Places with no link on the way

A tree may have links, and still have none at a place and above it.  A lookup of such
a place comes to the place itself or is refused, and its path resolves to it if the
system can be asked about it: `resolve_ofLocation`.

Where a document stands in a well-formed tree is such a place, since everything above
it is a directory.
-/

namespace ProseCompiler.Tree

variable {t : Tree} {followLast : Bool} {place p l d : Location} {pieces more : List Text}
  {n : Option Node} {name path : Text}

/-- No link stands at a place or above it. -/
def Unlinked (t : Tree) (l : Location) : Prop :=
  ∀ above, above <+: l → ∀ target, t.node? above ≠ some (.link target)

theorem Unlinked.of_longer (h : t.Unlinked l) (hp : p <+: l) : t.Unlinked p :=
  fun above habove => h above (habove.trans hp)

/-- A name below a place without links on the way is such a place, if it is no link. -/
theorem Unlinked.concat (h : t.Unlinked l)
    (hname : ∀ target, t.node? (l ++ [name]) ≠ some (.link target)) : t.Unlinked (l ++ [name]) := by
  intro above habove
  rcases List.prefix_concat_iff.mp habove with rfl | habove
  · exact hname
  · exact h above habove

/-- Everything above what stands in a well-formed tree is a directory. -/
theorem WellFormed.unlinked {node : Node} (hform : t.WellFormed) (hnode : t.node? l = some node)
    (hlink : ∀ target, node ≠ .link target) : t.Unlinked l := by
  rintro above ⟨rest, rfl⟩ target htarget
  by_cases hrest : rest = []
  · rw [hrest, List.append_nil, htarget, Option.some.injEq] at hnode
    exact hlink target hnode.symm
  · rw [hform.isDirectory_of_append hrest hnode] at htarget
    cases htarget

/-! ## Lookup -/

/-- A lookup along names that no link stands on comes to the place that they name, or is
refused. -/
theorem advance_of_unlinked (hclean : Location.IsClean pieces)
    (hlinks : t.Unlinked (place ++ pieces)) :
    t.advance followLast place pieces = .arrived (place ++ pieces) (t.node? (place ++ pieces)) ∨
      ∃ error, t.advance followLast place pieces = .refused error := by
  induction pieces generalizing place with
  | nil => exact .inl (by rw [advance, List.append_nil])
  | cons piece rest ih =>
    obtain ⟨hempty, hhere, hup, -⟩ := hclean piece List.mem_cons_self
    have hidle : ¬(piece = [] ∨ piece = Path.here) := not_or.mpr ⟨hempty, hhere⟩
    have hsplit : place ++ piece :: rest = place ++ [piece] ++ rest := by simp
    have hrest := @ih (place ++ [piece])
      (fun other hother => hclean other (List.mem_cons_of_mem piece hother)) (hsplit ▸ hlinks)
    have hpiece : ∀ target, t.node? (place ++ [piece]) ≠ some (.link target) :=
      hlinks _ (by rw [hsplit]; exact List.prefix_append _ _)
    by_cases hplace : t.node? place = some .directory
    case neg => exact .inr ⟨.notDirectory, by rw [advance, if_pos hplace]⟩
    rw [advance, if_neg (not_not.mpr hplace), if_neg hidle, if_neg hup]
    split
    · exact .inr ⟨_, rfl⟩
    simp only
    split
    · next target hnode => exact absurd hnode (hpiece target)
    · rw [hsplit]
      exact hrest
    · next hnode =>
      split
      · next hlast =>
        subst hlast
        rw [hnode]
        exact .inl rfl
      · exact .inr ⟨_, rfl⟩

/-- What a lookup of a place without links on the way finds. -/
theorem find_of_unlinked (hclean : l.IsClean) (hlinks : t.Unlinked l) :
    t.find followLast (Location.text l) = .ok (l, t.node? l) ∨
      ∃ error, t.find followLast (Location.text l) = .error error ∧ error ≠ .tooManyLinks := by
  rw [find_text hclean]
  split
  · exact .inr ⟨_, rfl, by simp⟩
  · rcases @advance_of_unlinked t followLast [] l hclean hlinks with harrived | ⟨error, hrefused⟩
    · exact .inl (findFrom_of_arrived harrived)
    · refine .inr ⟨error, ?_, ?_⟩
      · unfold findFrom
        rw [hrefused]
      · rcases advance_refused hrefused with rfl | rfl | rfl <;> simp

theorem find_ne_link (hclean : l.IsClean) (hlinks : t.Unlinked l) (found : Location)
    (target : Text) : t.find followLast (Location.text l) ≠ .ok (found, some (.link target)) := by
  intro hfind
  rcases find_of_unlinked hclean hlinks with hplace | ⟨error, herror, -⟩
  · rw [hplace, Except.ok.injEq, Prod.mk.injEq] at hfind
    exact hlinks l (List.prefix_refl l) target hfind.2
  · rw [herror] at hfind
    cases hfind

/-! ## Resolution -/

theorem anchored_text (l : Location) : Path.text ⟨.root, l⟩ = Location.text l := rfl

/-- Names are passed one after the other, as long as the system can be asked about them. -/
theorem resolvePieces_of_unlinked
    (follow : Followed → Path → List Text → Except Fault Resolution) (followed : Followed)
    (hclean : Location.IsClean (place ++ pieces)) (hlinks : t.Unlinked (place ++ pieces))
    (hcheck : checkPath (Location.text (place ++ pieces)) = .ok ()) :
    t.resolvePieces follow followed ⟨.root, place⟩ (pieces ++ more) =
      t.resolvePieces follow followed ⟨.root, place ++ pieces⟩ more := by
  induction pieces generalizing place with
  | nil => rw [List.nil_append, List.append_nil]
  | cons piece rest ih =>
    obtain ⟨hempty, hhere, hup, -⟩ := hclean piece (by simp)
    have hidle : ¬(piece = [] ∨ piece = Path.here) := not_or.mpr ⟨hempty, hhere⟩
    have hsplit : place ++ piece :: rest = place ++ [piece] ++ rest := by simp
    rw [hsplit] at hclean hlinks hcheck ⊢
    have hnext : checkPath (Location.text (place ++ [piece])) = .ok () :=
      checkPath_of_longer (Location.text_isPrefix_append _ rest) hcheck
    rw [List.cons_append, resolvePieces, if_neg hidle, if_neg hup]
    simp only [anchored_text, hnext]
    rw [← ih hclean hlinks hcheck]
    split
    · next found target hfind =>
      exact absurd hfind (find_ne_link hclean.of_append
        (hlinks.of_longer (List.prefix_append _ rest)) found target)
    · rfl

/-- Walking along names comes to the place that they name. -/
theorem walk_of_isClean (hclean : Location.IsClean pieces) :
    Location.walk place pieces = place ++ pieces := by
  induction pieces generalizing place with
  | nil => rw [Location.walk, List.append_nil]
  | cons piece rest ih =>
    obtain ⟨hempty, hhere, hup, -⟩ := hclean piece List.mem_cons_self
    rw [Location.walk, if_neg (not_or.mpr ⟨hempty, hhere⟩), if_neg hup,
      ih fun other hother => hclean other (List.mem_cons_of_mem piece hother)]
    simp

/-- The text of a clean location leads to the location. -/
theorem ofText_text (hclean : l.IsClean) (start : Location) :
    Location.ofText start (Location.text l) = l := by
  rw [Location.ofText, Location.anchorOf_text hclean, if_neg (by simp)]
  by_cases hl : l = []
  · subst hl
    rfl
  · rw [Location.pieces_text hclean hl, Location.walk, if_pos (.inl rfl)]
    exact walk_of_isClean hclean

/-- A place without links on the way is resolved by looking at its text alone, if its
directory can be asked about. -/
theorem realPlace_of_unlinked (hclean : (l ++ [name]).IsClean) (hlinks : t.Unlinked (l ++ [name]))
    (habove : checkPath (Location.text l) = .ok ()) :
    t.realPlace (Location.text (l ++ [name])) =
      (checkPath (Location.text (l ++ [name]))).map fun _ => l ++ [name] := by
  have hne : l ++ [name] ≠ [] := by simp
  obtain ⟨hempty, hhere, hup, -⟩ := hclean.last
  have hidle : ¬(name = [] ∨ name = Path.here) := not_or.mpr ⟨hempty, hhere⟩
  have hdirectory : t.Unlinked l := hlinks.of_longer (List.prefix_append l [name])
  have hpieces : t.resolveWithin resolveDepth [] ⟨.root, []⟩ ([] :: (l ++ [name])) =
      (checkPath (Location.text (l ++ [name]))).map
        fun _ => .resolved ⟨.root, l ++ [name]⟩ [] := by
    show t.resolvePieces (t.resolveWithin 959) [] ⟨.root, []⟩ ([] :: (l ++ [name])) = _
    rw [resolvePieces, if_pos (.inl rfl)]
    have hnames := @resolvePieces_of_unlinked t [] l [name] (t.resolveWithin 959) []
      hclean.of_append hdirectory habove
    rw [hnames, List.nil_append, resolvePieces, if_neg hidle, if_neg hup]
    simp only [anchored_text]
    cases checkPath (Location.text (l ++ [name])) with
    | error fault => rfl
    | ok =>
      simp only
      split
      · next found target hfind => exact absurd hfind (find_ne_link hclean hlinks found target)
      · rfl
  rw [realPlace, Location.anchorOf_text hclean, Location.pieces_text hclean hne]
  simp only [reduceCtorEq, if_false, hpieces]
  cases checkPath (Location.text (l ++ [name])) with
  | error fault => rfl
  | ok =>
    have hreached : reachedText ⟨.root, l ++ [name]⟩ = Location.text (l ++ [name]) := by
      rw [reachedText, if_neg (by simp), anchored_text]
    simp only [Except.map, hreached, ofText_text hclean]

/-- A path resolves to its real place, if no link is left on the way there and the system can
be asked about it. -/
theorem resolve_of_realPlace {source : Path} (hreal : t.realPlace source.text = .ok l)
    (hclean : l.IsClean) (hlinks : t.Unlinked l)
    (hcheck : checkPath (Location.text l) = .ok ()) : t.resolve source = .ok l := by
  rw [resolve, hreal]
  simp only [status, hcheck, bind, Except.bind]
  rcases @find_of_unlinked t true _ hclean hlinks with hplace | ⟨error, herror, hloop⟩
  · rw [hplace]
    cases t.node? l <;> rfl
  · rw [herror]
    cases error <;> first | rfl | exact absurd rfl hloop

/-- A place without links on the way resolves to itself, if the system can be asked about
it at all. -/
theorem resolve_ofLocation (hclean : (l ++ [name]).IsClean) (hlinks : t.Unlinked (l ++ [name]))
    (habove : checkPath (Location.text l) = .ok ()) :
    t.resolve (Path.ofLocation (l ++ [name])) =
      (checkPath (Location.text (l ++ [name]))).map fun _ => l ++ [name] := by
  have hreal := realPlace_of_unlinked hclean hlinks habove
  have htext : (Path.ofLocation (l ++ [name])).text = Location.text (l ++ [name]) := rfl
  cases hcheck : checkPath (Location.text (l ++ [name])) with
  | error fault =>
    rw [resolve, htext, hreal, hcheck]
    rfl
  | ok =>
    rw [hcheck] at hreal
    exact resolve_of_realPlace (htext ▸ hreal) hclean hlinks hcheck

/-- The system can be asked about what a path resolves to. -/
theorem checkPath_of_resolve {source : Path} (h : t.resolve source = .ok l) :
    checkPath (Location.text l) = .ok () := by
  rw [resolve] at h
  cases hreal : t.realPlace source.text with
  | error fault =>
    rw [hreal] at h
    cases h
  | ok place =>
    rw [hreal] at h
    simp only at h
    cases hcheck : checkPath (Location.text place) with
    | error fault =>
      have hstatus : t.status true (Location.text place) = .error fault := by
        simp [status, hcheck, bind, Except.bind]
      have hsystem := checkPath_error hcheck
      rw [hstatus] at h
      cases fault with
      | system error path => exact absurd rfl (hsystem error path)
      | _ => cases h
    | ok =>
      split at h
      · cases h
      · cases h
        exact hcheck
      · cases h
        exact hcheck
      · cases h

/-! ## What the system can be asked about -/

/-- A code point that stands for octets: no surrogate, except those that stand for a
single octet each. -/
def IsStorable (c : CodePoint) : Prop :=
  (c.isSurrogate && !(0xDC80 ≤ c.val && c.val ≤ 0xDCFF)) = false

instance (c : CodePoint) : Decidable (IsStorable c) := inferInstanceAs (Decidable (_ = _))

theorem checkPath_eq_ok_iff_all :
    checkPath path = .ok () ↔ ∀ c ∈ path, IsStorable c ∧ c.val ≠ 0 := by
  rw [checkPath_eq_ok_iff, List.any_eq_false]
  simp only [beq_iff_eq]
  exact ⟨fun h c hc => ⟨h.1 c hc, h.2 c hc⟩, fun h => ⟨fun c hc => (h c hc).1, fun c hc => (h c hc).2⟩⟩

/-- What cannot be stored cannot be asked about. -/
theorem checkPath_unencodable (h : ∃ c ∈ path, ¬IsStorable c) :
    ∃ error, checkPath path = .error (.unencodable error) := by
  simp only [checkPath]
  split
  · exact ⟨_, rfl⟩
  · next hnone =>
    obtain ⟨c, hc, hbad⟩ := h
    exact absurd (firstStretch?_eq_none_iff.mp hnone c hc) hbad

theorem mem_text_iff {c : CodePoint} :
    c ∈ Location.text l ↔ c = '/' ∨ ∃ name ∈ l, c ∈ name := by
  rw [Location.text_eq]
  induction l with
  | nil => simp [Text.joinWith]
  | cons name rest ih =>
    cases rest with
    | nil => simp [Text.joinWith]
    | cons next rest =>
      have hslash : c ∈ (("/" : String) : Text) ↔ c = '/' := List.mem_singleton
      simp only [List.mem_cons] at ih
      simp only [Text.joinWith_cons_cons, List.mem_cons, List.mem_append, hslash]
      grind

/-- The system can be asked about the directory of what it can be asked about. -/
theorem checkPath_parent (h : checkPath (Location.text l) = .ok ()) :
    checkPath (Location.text (Location.parent l)) = .ok () := by
  obtain ⟨rest, hrest⟩ := List.dropLast_prefix l
  have hlonger := Location.text_isPrefix_append (Location.parent l) rest
  rw [Location.parent, hrest] at hlonger
  exact checkPath_of_longer hlonger h

/-- A name below a place that the system can be asked about can be asked about if all of
it can be stored. -/
theorem checkPath_concat_eq_ok_iff (habove : checkPath (Location.text l) = .ok ()) :
    checkPath (Location.text (l ++ [name])) = .ok () ↔ ∀ c ∈ name, IsStorable c ∧ c.val ≠ 0 := by
  rw [checkPath_eq_ok_iff_all] at habove ⊢
  have hslash : IsStorable '/' ∧ CodePoint.val '/' ≠ 0 := by decide
  constructor
  · intro h c hc
    exact h c (mem_text_iff.mpr (.inr ⟨name, by simp, hc⟩))
  · intro h c hc
    rcases mem_text_iff.mp hc with rfl | ⟨other, hother, hc⟩
    · exact hslash
    · rcases List.mem_append.mp hother with hother | hother
      · exact habove c (mem_text_iff.mpr (.inr ⟨other, hother, hc⟩))
      · rw [List.mem_singleton.mp hother] at hc
        exact h c hc

end ProseCompiler.Tree
