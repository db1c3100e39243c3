import ProseCompiler.Proofs.Files.Trail

/-!
# Resolving along a way

A resolution remembers the links that it has followed and those that it is following.
What it remembers of the former is where they lead (`Knows`).  It never comes upon one of
the latter again on a way that has an end: the way behind such a link would be as deep as
itself (`OpensFrom`).  So it comes to the end of the way (`resolveWithin_of_trail`), and a
path resolves to the place there (`resolve_of_trail`).

That holds as far as the system can be asked about all names on the way.  Another name ends
the resolution (`resolve_unaskable`).
-/

namespace ProseCompiler.Tree

variable {t : Tree} {p q mid path : Path} {name target : Text} {ps rest : List Text}
  {m n depth : Nat} {followed followed' : Followed}

/-! ## What a resolution can go on from -/

theorem isAskable_iff : IsAskable name ↔ checkPath name = .ok () := checkPath_eq_ok_iff_all.symm

theorem IsAskable.of_mem_pieces (h : IsAskable target) {piece : Text}
    (hpiece : piece ∈ Path.pieces target) : IsAskable piece :=
  fun c hc => h c (Text.mem_of_mem_splitOn hpiece hc)

/-- A path that a resolution comes to if no link is left on the way, and that the system
can be asked about. -/
structure Settled (t : Tree) (p : Path) : Prop where
  isReached : p.IsReached
  unlinked : t.Unlinked (t.placeOf p)
  isAskable : ∀ part ∈ p.parts, IsAskable part

/-- The text of a path is made of its components, and of slashes. -/
theorem eq_slash_or_of_mem_text {c : CodePoint} (hne : ¬(p.anchor = .relative ∧ p.parts = []))
    (hc : c ∈ p.text) : c = '/' ∨ ∃ part ∈ p.parts, c ∈ part := by
  have htext : p.text = p.anchor.text ++ Text.joinWith "/" p.parts := if_neg hne
  have hanchor : ∀ c ∈ p.anchor.text, c = '/' := by cases p.anchor <;> decide
  rw [htext, List.mem_append] at hc
  rcases hc with hc | hc
  · exact .inl (hanchor c hc)
  · exact mem_text_iff.mp (List.mem_cons_of_mem _ hc)

theorem mem_text_of_mem_part {c : CodePoint} {part : Text} (hpart : part ∈ p.parts) (hc : c ∈ part)
    (hslash : c ≠ '/') : c ∈ p.text := by
  have hne : p.parts ≠ [] := List.ne_nil_of_mem hpart
  have htext : p.text = p.anchor.text ++ Text.joinWith "/" p.parts := if_neg fun h => hne h.2
  have hmem : c ∈ Location.text p.parts := mem_text_iff.mpr (.inr ⟨part, hpart, hc⟩)
  rw [htext]
  exact List.mem_append_right _ ((List.mem_cons.mp hmem).resolve_left hslash)

/-- The system can be asked about an entry of a path if it can be asked about its name. -/
theorem checkPath_child_iff (hp : ∀ part ∈ p.parts, IsAskable part) :
    checkPath (p.child name).text = .ok () ↔ IsAskable name := by
  have hslash : IsStorable '/' ∧ CodePoint.val '/' ≠ 0 := by decide
  rw [← isAskable_iff]
  constructor
  · intro h c hc
    by_cases hc' : c = '/'
    · exact hc' ▸ hslash
    · exact h c (mem_text_of_mem_part (p := p.child name) (by simp [Path.child]) hc hc')
  · intro h c hc
    rcases eq_slash_or_of_mem_text (fun h => Path.child_parts_ne_nil p name h.2) hc with
      rfl | ⟨part, hpart, hc⟩
    · exact hslash
    · rcases List.mem_append.mp hpart with hpart | hpart
      · exact hp part hpart c hc
      · rw [List.mem_singleton.mp hpart] at hc
        exact h c hc

namespace Settled

theorem root : t.Settled ⟨.root, []⟩ := by
  refine ⟨.root .nil, ?_, by simp⟩
  intro above habove target
  have hroot : above = [] := List.prefix_nil.mp habove
  subst hroot
  simp

theorem here (hform : t.WellFormed) : t.Settled ⟨.relative, []⟩ :=
  ⟨.relative 0 .nil, hform.unlinked hform.workingDirectory_isDirectory (by simp), by simp⟩

theorem above (hp : t.Settled p) : t.Settled (above p) := by
  refine ⟨hp.isReached.above, ?_, ?_⟩
  · rw [placeOf_above hp.isReached]
    exact hp.unlinked.of_longer (List.dropLast_prefix _)
  · have hparts := hp.isAskable
    rcases hp.isReached.cases_child with rfl | ⟨steps, rfl⟩ | ⟨q, name, -, hname, rfl⟩
    · exact hparts
    · rw [above_steps]
      intro part hpart
      rw [List.eq_of_mem_replicate hpart]
      unfold IsAskable
      decide
    · rw [above_child hname]
      exact fun part hpart => hparts part (List.mem_append_left _ hpart)

theorem child (hp : t.Settled p) (hname : Path.IsName name) (hask : IsAskable name)
    (hlink : ∀ target, t.node? (t.placeOf p ++ [name]) ≠ some (.link target)) :
    t.Settled (p.child name) := by
  refine ⟨hp.isReached.child hname, ?_, ?_⟩
  · rw [placeOf_child hname]
    exact hp.unlinked.concat hlink
  · intro part hpart
    rcases List.mem_append.mp hpart with hpart | hpart
    · exact hp.isAskable part hpart
    · rw [List.mem_singleton.mp hpart]
      exact hask

theorem linkStart (hp : t.Settled p) (target : Text) : t.Settled (linkStart p target) := by
  rw [Tree.linkStart]
  split
  · exact hp
  · exact root

end Settled

/-- A way leads to what a resolution can go on from. -/
theorem Trail.settled (hstored : t.Stored) (h : t.Trail n p ps q) (hp : t.Settled p)
    (hask : ∀ piece ∈ ps, IsAskable piece) : t.Settled q := by
  induction h with
  | arrived => exact hp
  | idle _ _ ih => exact ih hp fun piece hpiece => hask piece (List.mem_cons_of_mem _ hpiece)
  | up _ ih => exact ih hp.above fun piece hpiece => hask piece (List.mem_cons_of_mem _ hpiece)
  | name hname hlink _ ih =>
    exact ih (hp.child hname (hask _ List.mem_cons_self) hlink) fun piece hpiece =>
      hask piece (List.mem_cons_of_mem _ hpiece)
  | link hname hnode _ _ _ ihtarget ihrest =>
    have htarget : ∀ piece ∈ Path.pieces _, IsAskable piece := fun piece hpiece =>
      (hstored.targets hnode).of_mem_pieces hpiece
    exact ihrest (ihtarget (hp.linkStart _) htarget) fun piece hpiece =>
      hask piece (List.mem_cons_of_mem _ hpiece)

/-! ## What a resolution remembers -/

/-- What is remembered of a link that was followed is where it leads. -/
def Knows (t : Tree) (followed : Followed) : Prop :=
  ∀ {p known : Path} {name target : Text}, p.IsReached → Path.IsName name →
    t.node? (t.placeOf p ++ [name]) = some (.link target) →
    followed.lookup (p.child name).text = some (some known) →
    ∃ m, t.Trail m (linkStart p target) (Path.pieces target) known

/-- The way behind a link that is being followed is at least so deep. -/
def OpensFrom (t : Tree) (n : Nat) (followed : Followed) : Prop :=
  ∀ {p q : Path} {name target : Text} {m : Nat}, p.IsReached → Path.IsName name →
    t.node? (t.placeOf p ++ [name]) = some (.link target) →
    followed.lookup (p.child name).text = some none →
    t.Trail m (linkStart p target) (Path.pieces target) q → n ≤ m

theorem knows_nil : t.Knows [] := by
  intro p known name target _ _ _ hlookup
  cases hlookup

theorem opensFrom_nil : t.OpensFrom n [] := by
  intro p q name target m _ _ _ hlookup
  cases hlookup

theorem OpensFrom.of_le (h : t.OpensFrom n followed) (hm : m ≤ n) : t.OpensFrom m followed :=
  fun hp hname hnode hlookup htrail => Nat.le_trans hm (h hp hname hnode hlookup htrail)

/-- No link is being followed that was not before. -/
def Closes (followed followed' : Followed) : Prop :=
  ∀ text, followed'.lookup text = some none → followed.lookup text = some none

theorem OpensFrom.of_closes (h : t.OpensFrom n followed) (hcloses : Closes followed followed') :
    t.OpensFrom n followed' :=
  fun hp hname hnode hlookup htrail => h hp hname hnode (hcloses _ hlookup) htrail

theorem lookup_cons_self (followed : Followed) (text : Text) (entry : Option Path) :
    List.lookup text ((text, entry) :: followed) = some entry := List.lookup_cons_self

theorem lookup_cons_of_ne {text other : Text} (h : other ≠ text) (followed : Followed)
    (entry : Option Path) : List.lookup other ((text, entry) :: followed) =
      followed.lookup other := by
  rw [List.lookup_cons, beq_eq_false_iff_ne.mpr h]

theorem Knows.cons_none (h : t.Knows followed) (text : Text) :
    t.Knows ((text, none) :: followed) := by
  intro p known name target hp hname hnode hlookup
  by_cases htext : (p.child name).text = text
  · rw [htext, lookup_cons_self] at hlookup
    cases hlookup
  · rw [lookup_cons_of_ne htext] at hlookup
    exact h hp hname hnode hlookup

section Link

variable (hp : p.IsReached) (hname : Path.IsName name)
  (hnode : t.node? (t.placeOf p ++ [name]) = some (.link target))
  (htrail : t.Trail m (linkStart p target) (Path.pieces target) mid)

include hp hname hnode htrail

/-- Whatever path has the text of a link, the way behind it is that of the link. -/
theorem trail_of_text {p' : Path} {name' target' : Text} (hp' : p'.IsReached)
    (hname' : Path.IsName name')
    (hnode' : t.node? (t.placeOf p' ++ [name']) = some (.link target'))
    (htext : (p'.child name').text = (p.child name).text) :
    t.Trail m (linkStart p' target') (Path.pieces target') mid := by
  have hsame := (hp'.child hname').text_injective (hp.child hname)
    (Path.child_parts_ne_nil p' name') (Path.child_parts_ne_nil p name) htext
  obtain ⟨rfl, rfl⟩ := Path.child_injective hsame
  rw [hnode, Option.some.injEq, Node.link.injEq] at hnode'
  exact hnode' ▸ htrail

theorem Knows.cons_some (h : t.Knows followed) :
    t.Knows (((p.child name).text, some mid) :: followed) := by
  intro p' known name' target' hp' hname' hnode' hlookup
  by_cases htext : (p'.child name').text = (p.child name).text
  · rw [htext, lookup_cons_self] at hlookup
    cases hlookup
    exact ⟨m, trail_of_text hp hname hnode htrail hp' hname' hnode' htext⟩
  · rw [lookup_cons_of_ne htext] at hlookup
    exact h hp' hname' hnode' hlookup

theorem OpensFrom.cons_none (h : t.OpensFrom m followed) :
    t.OpensFrom m (((p.child name).text, none) :: followed) := by
  intro p' q' name' target' m' hp' hname' hnode' hlookup htrail'
  by_cases htext : (p'.child name').text = (p.child name).text
  · have hsame := trail_of_text hp hname hnode htrail hp' hname' hnode' htext
    exact Nat.le_of_eq (hsame.unique htrail').1
  · rw [lookup_cons_of_ne htext] at hlookup
    exact h hp' hname' hnode' hlookup htrail'

end Link

theorem Closes.of_follow {text : Text} {known : Path}
    (h : Closes ((text, none) :: followed) followed') :
    Closes followed ((text, some known) :: followed') := by
  intro other hother
  by_cases htext : other = text
  · rw [htext, lookup_cons_self] at hother
    cases hother
  · rw [lookup_cons_of_ne htext] at hother
    have hbefore := h other hother
    rw [lookup_cons_of_ne htext] at hbefore
    exact hbefore

theorem Closes.trans {followed'' : Followed} (h : Closes followed followed')
    (h' : Closes followed' followed'') : Closes followed followed'' :=
  fun text htext => h text (h' text htext)

/-! ## Resolving along a way -/

section Steps

variable {follow : Followed → Path → List Text → Except Fault Resolution}

theorem resolvePieces_idle {piece : Text} (hidle : piece = [] ∨ piece = Path.here) :
    t.resolvePieces follow followed p (piece :: rest) =
      t.resolvePieces follow followed p rest := by
  rw [resolvePieces, if_pos hidle]

theorem resolvePieces_up : t.resolvePieces follow followed p (Path.up :: rest) =
    t.resolvePieces follow followed (above p) rest := by
  rw [resolvePieces, if_neg (by decide), if_pos rfl]

/-- A name that is no link is passed. -/
theorem resolvePieces_plain (hform : t.WellFormed) (hp : t.Settled p) (hname : Path.IsName name)
    (hask : IsAskable name)
    (hlink : ∀ target, t.node? (t.placeOf p ++ [name]) ≠ some (.link target)) :
    t.resolvePieces follow followed p (name :: rest) =
      t.resolvePieces follow followed (p.child name) rest := by
  have hcheck := (checkPath_child_iff hp.isAskable).mpr hask
  have hfind := find_child_ne_link hform hp.isReached hname hp.unlinked hlink
  rw [Path.child] at hcheck hfind
  rw [resolvePieces, if_neg (not_idle_of_isName hname), if_neg hname.2.2.1]
  simp only [hcheck]
  rfl

/-- A link that was followed is passed by what is known of it. -/
theorem resolvePieces_known (hform : t.WellFormed) (hstored : t.Stored) (hp : t.Settled p)
    (hname : Path.IsName name) (hask : IsAskable name)
    (hnode : t.node? (t.placeOf p ++ [name]) = some (.link target))
    (hsize : nameSize (p.child name).text ≤ pathLimit)
    (hknown : followed.lookup (p.child name).text = some (some mid)) :
    t.resolvePieces follow followed p (name :: rest) =
      t.resolvePieces follow followed mid rest := by
  have hcheck := (checkPath_child_iff hp.isAskable).mpr hask
  have hfind := find_child_link hform hstored hp.isReached hname hnode hsize
  rw [Path.child] at hcheck hfind hknown
  rw [resolvePieces, if_neg (not_idle_of_isName hname), if_neg hname.2.2.1]
  simp only [hcheck, hfind, hknown]

/-- A link that is new is followed. -/
theorem resolvePieces_follow (hform : t.WellFormed) (hstored : t.Stored) (hp : t.Settled p)
    (hname : Path.IsName name) (hask : IsAskable name)
    (hnode : t.node? (t.placeOf p ++ [name]) = some (.link target))
    (hsize : nameSize (p.child name).text ≤ pathLimit)
    (hnew : followed.lookup (p.child name).text = none)
    (hfollow : follow (((p.child name).text, none) :: followed) (linkStart p target)
      (Path.pieces target) = .ok (.resolved mid followed')) :
    t.resolvePieces follow followed p (name :: rest) =
      t.resolvePieces follow (((p.child name).text, some mid) :: followed') mid rest := by
  have hcheck := (checkPath_child_iff hp.isAskable).mpr hask
  have hfind := find_child_link hform hstored hp.isReached hname hnode hsize
  rw [Path.child] at hcheck hfind hnew hfollow ⊢
  rw [linkStart] at hfollow
  rw [resolvePieces, if_neg (not_idle_of_isName hname), if_neg hname.2.2.1]
  simp only [hcheck, hfind, hnew, hfollow]

end Steps

/-- A resolution comes to the end of a way whose links do not lie deeper inside one another
than it may follow them. -/
theorem resolveWithin_of_trail (hform : t.WellFormed) (hstored : t.Stored)
    (h : t.Trail n p ps q) (hdepth : n ≤ depth) (hp : t.Settled p)
    (hask : ∀ piece ∈ ps, IsAskable piece) (hknows : t.Knows followed)
    (hopen : t.OpensFrom n followed) :
    ∃ followed', t.resolveWithin (depth + 1) followed p ps = .ok (.resolved q followed') ∧
      t.Knows followed' ∧ Closes followed followed' := by
  induction h generalizing depth followed with
  | arrived => exact ⟨followed, rfl, hknows, fun _ h => h⟩
  | idle hidle _ ih =>
    rw [resolveWithin, resolvePieces_idle hidle]
    exact ih hdepth hp (fun piece hpiece => hask piece (List.mem_cons_of_mem _ hpiece)) hknows hopen
  | up _ ih =>
    rw [resolveWithin, resolvePieces_up]
    exact ih hdepth hp.above (fun piece hpiece => hask piece (List.mem_cons_of_mem _ hpiece))
      hknows hopen
  | name hname hlink _ ih =>
    have hchild := hask _ List.mem_cons_self
    rw [resolveWithin, resolvePieces_plain hform hp hname hchild hlink]
    exact ih hdepth (hp.child hname hchild hlink)
      (fun piece hpiece => hask piece (List.mem_cons_of_mem _ hpiece)) hknows hopen
  | @link m n p mid q name target rest hname hnode hsize htarget hrest ihtarget ihrest =>
    have hchild := hask _ List.mem_cons_self
    have haskRest : ∀ piece ∈ rest, IsAskable piece := fun piece hpiece =>
      hask piece (List.mem_cons_of_mem _ hpiece)
    have haskTarget : ∀ piece ∈ Path.pieces target, IsAskable piece := fun piece hpiece =>
      (hstored.targets hnode).of_mem_pieces hpiece
    have hmid : t.Settled mid := htarget.settled hstored (hp.linkStart target) haskTarget
    have hrestDepth : n ≤ depth := Nat.le_trans (Nat.le_max_right _ _) hdepth
    have hopenRest : t.OpensFrom n followed := hopen.of_le (Nat.le_max_right _ _)
    cases hlookup : followed.lookup (p.child name).text with
    | some entry =>
      cases entry with
      | some known =>
        obtain ⟨m', hknown⟩ := hknows hp.isReached hname hnode hlookup
        obtain ⟨-, rfl⟩ := htarget.unique hknown
        rw [resolveWithin, resolvePieces_known hform hstored hp hname hchild hnode hsize hlookup]
        exact ihrest hrestDepth hmid haskRest hknows hopenRest
      | none =>
        -- The way behind a link that is being followed does not come upon it again.
        have hless := hopen hp.isReached hname hnode hlookup htarget
        omega
    | none =>
      obtain ⟨deeper, rfl⟩ : ∃ deeper, depth = deeper + 1 := ⟨depth - 1, by omega⟩
      have hdeeper : m ≤ deeper := by omega
      have hopenTarget : t.OpensFrom m followed := hopen.of_le (by omega)
      obtain ⟨followed₁, hfollow, hknows₁, hcloses₁⟩ := ihtarget hdeeper (hp.linkStart target)
        haskTarget (hknows.cons_none _)
        (OpensFrom.cons_none hp.isReached hname hnode htarget hopenTarget)
      have hcloses : Closes followed (((p.child name).text, some mid) :: followed₁) :=
        hcloses₁.of_follow
      obtain ⟨followed₂, hresolve, hknows₂, hcloses₂⟩ := ihrest hrestDepth hmid haskRest
        (Knows.cons_some hp.isReached hname hnode htarget hknows₁) (hopenRest.of_closes hcloses)
      refine ⟨followed₂, ?_, hknows₂, hcloses.trans hcloses₂⟩
      rw [resolveWithin, resolvePieces_follow hform hstored hp hname hchild hnode hsize hlookup
        hfollow]
      exact hresolve

/-! ## Names that the system cannot be asked about -/

/-- A text that can be stored and holds a NUL cannot be asked about for just that. -/
theorem checkPath_embeddedNul {text : Text} (hstorable : ∀ c ∈ text, IsStorable c)
    (hnul : ∃ c ∈ text, c.val = 0) : checkPath text = .error .embeddedNul := by
  have hany : (text.any fun c => c.val == 0) = true := by
    obtain ⟨c, hc, hzero⟩ := hnul
    exact List.any_eq_true.mpr ⟨c, hc, beq_iff_eq.mpr hzero⟩
  simp only [checkPath]
  split
  · next hsome =>
    rw [firstStretch?_eq_none_iff.mpr hstorable] at hsome
    cases hsome
  · rw [if_pos hany]

/-- Pieces that cannot all be asked about have a first one. -/
theorem exists_first_unaskable (h : ¬∀ piece ∈ ps, IsAskable piece) :
    ∃ before bad after, ps = before ++ bad :: after ∧ (∀ piece ∈ before, IsAskable piece) ∧
      ¬IsAskable bad := by
  induction ps with
  | nil => exact absurd (fun _ hmem => absurd hmem List.not_mem_nil) h
  | cons piece rest ih =>
    by_cases hpiece : IsAskable piece
    · have hrest : ¬∀ piece ∈ rest, IsAskable piece := fun hall =>
        h (List.forall_mem_cons.mpr ⟨hpiece, hall⟩)
      obtain ⟨before, bad, after, rfl, hbefore, hbad⟩ := ih hrest
      exact ⟨piece :: before, bad, after, rfl, List.forall_mem_cons.mpr ⟨hpiece, hbefore⟩, hbad⟩
    · exact ⟨[], piece, rest, rfl, by simp, hpiece⟩

/-- A resolution along a way asks about every name of it, and fails for the first one that the
system cannot be asked about. -/
theorem resolveWithin_unaskable (hform : t.WellFormed) (hstored : t.Stored)
    (h : t.Trail n p ps q) (hdepth : n ≤ depth) (hp : t.Settled p)
    (hunaskable : ¬∀ piece ∈ ps, IsAskable piece) :
    ∃ mid bad fault, t.Settled mid ∧ bad ∈ ps ∧ ¬IsAskable bad ∧
      checkPath (mid.child bad).text = .error fault ∧
      t.resolveWithin (depth + 1) [] p ps = .error fault := by
  obtain ⟨before, bad, after, rfl, hbefore, hbad⟩ := exists_first_unaskable hunaskable
  obtain ⟨m, k, mid, hstart, -, rfl⟩ := Trail.append_iff.mp h
  have hstartDepth : m ≤ depth := Nat.le_trans (Nat.le_max_left m k) hdepth
  obtain ⟨followed, hresolved, -, -⟩ := resolveWithin_of_trail hform hstored hstart hstartDepth hp
    hbefore knows_nil opensFrom_nil
  have hmid : t.Settled mid := hstart.settled hstored hp hbefore
  have hplain : ∀ piece : Text, piece = [] ∨ piece = Path.here ∨ piece = Path.up →
      IsAskable piece := by
    unfold IsAskable
    rintro piece (rfl | rfl | rfl) <;> decide
  have hidle : ¬(bad = [] ∨ bad = Path.here) := fun hidle =>
    hbad (hplain bad (hidle.imp_right .inl))
  have hup : bad ≠ Path.up := fun hup => hbad (hplain bad (.inr (.inr hup)))
  cases hcheck : checkPath (mid.child bad).text with
  | ok => exact absurd ((checkPath_child_iff hmid.isAskable).mp hcheck) hbad
  | error fault =>
    refine ⟨mid, bad, fault, hmid, by simp, hbad, hcheck, ?_⟩
    rw [Path.child] at hcheck
    rw [resolveWithin] at hresolved ⊢
    rw [resolvePieces_append_of_resolved hresolved, resolvePieces, if_neg hidle, if_neg hup]
    simp only [hcheck]

/-- What is left of a text that can be stored, and still cannot be asked about, is a NUL. -/
theorem Settled.checkPath_child_embeddedNul (hp : t.Settled p) (hname : ¬IsAskable name)
    (hstorable : ∀ c ∈ name, IsStorable c) :
    checkPath (p.child name).text = .error .embeddedNul := by
  have hnul : ∃ c ∈ name, c.val = 0 := by
    by_contra hnone
    exact hname fun c hc => ⟨hstorable c hc, fun hzero => hnone ⟨c, hc, hzero⟩⟩
  refine checkPath_embeddedNul (fun c hc => ?_) ?_
  · rcases eq_slash_or_of_mem_text (fun h => Path.child_parts_ne_nil p name h.2) hc with
      rfl | ⟨part, hpart, hc⟩
    · decide
    · rcases List.mem_append.mp hpart with hpart | hpart
      · exact (hp.isAskable part hpart c hc).1
      · rw [List.mem_singleton.mp hpart] at hc
        exact hstorable c hc
  · obtain ⟨c, hc, hzero⟩ := hnul
    have hpart : name ∈ (p.child name).parts := List.mem_concat_self
    refine ⟨c, mem_text_of_mem_part hpart hc ?_, hzero⟩
    rintro rfl
    exact absurd hzero (by decide)

/-! ## Resolving texts -/

theorem startPath_settled (hform : t.WellFormed) (text : Text) : t.Settled (startPath text) := by
  rw [startPath]
  split
  · exact .here hform
  · exact .root

theorem realPlace_eq (text : Text) : t.realPlace text =
    match t.resolveWithin resolveDepth [] (startPath text) (Path.pieces text) with
    | .error fault => .error fault
    | .ok (.looped text) => .ok (Location.ofText t.workingDirectory text)
    | .ok (.resolved path _) => .ok (Location.ofText t.workingDirectory (reachedText path)) := rfl

/-- The text of a path leads, without a look at links, to the place that the path names. -/
theorem ofText_reachedText (hp : p.IsReached) :
    Location.ofText t.workingDirectory (reachedText p) = t.placeOf p := by
  by_cases hne : p.parts = []
  · obtain ⟨anchor, parts⟩ := p
    subst hne
    cases anchor with
    | relative | root => rfl
    | doubleRoot => cases hp
  · rw [reachedText, if_neg (fun h => hne h.1), Location.ofText, hp.anchorOf_text hne,
      hp.pieces_text hne, placeOf, startOf]
    split
    · rfl
    · rw [List.singleton_append, Location.walk, if_pos (.inl rfl)]

theorem mem_walk {l : Location} (h : name ∈ Location.walk l ps) : name ∈ l ∨ name ∈ ps := by
  induction ps generalizing l with
  | nil => exact .inl h
  | cons piece rest ih =>
    rw [Location.walk] at h
    split at h
    · exact (ih h).imp_right (List.mem_cons_of_mem piece)
    · split at h
      · exact (ih h).imp (List.dropLast_sublist l).mem (List.mem_cons_of_mem piece)
      · rcases ih h with h | h
        · rcases List.mem_append.mp h with h | h
          · exact .inl h
          · exact .inr (List.mem_singleton.mp h ▸ List.mem_cons_self)
        · exact .inr (List.mem_cons_of_mem piece h)

theorem placeOf_isClean (hform : t.WellFormed) (hp : p.IsReached) : (t.placeOf p).IsClean := by
  refine Location.walk_isClean (fun part hpart => (hp.part_plain hpart).2) ?_
  rw [startOf]
  split
  · exact hform.isClean hform.workingDirectory_isDirectory
  · exact .nil

namespace Settled

variable (hform : t.WellFormed) (hstored : t.Stored) (hp : t.Settled p)

include hform hstored hp

/-- The system can be asked about the place that a path names. -/
theorem checkPath_placeOf : checkPath (Location.text (t.placeOf p)) = .ok () := by
  rw [← isAskable_iff]
  intro c hc
  rcases mem_text_iff.mp hc with rfl | ⟨name, hname, hc⟩
  · decide
  rcases mem_walk hname with hname | hname
  · rw [startOf] at hname
    split at hname
    · exact (hstored.names hform.workingDirectory_isDirectory name hname).2 c hc
    · cases hname
  · exact hp.isAskable name hname c hc

theorem resolve_of_realPlace {path : Path} (hreal : t.realPlace path.text = .ok (t.placeOf p)) :
    t.resolve path = .ok (t.placeOf p) :=
  Tree.resolve_of_realPlace hreal (placeOf_isClean hform hp.isReached) hp.unlinked
    (hp.checkPath_placeOf hform hstored)

end Settled

/-- A path resolves to the end of its way. -/
theorem resolve_of_trail (hform : t.WellFormed) (hstored : t.Stored)
    (h : t.Trail n (startPath path.text) (Path.pieces path.text) q) (hdepth : n < resolveDepth)
    (hask : IsAskable path.text) : t.resolve path = .ok (t.placeOf q) := by
  have hpieces : ∀ piece ∈ Path.pieces path.text, IsAskable piece :=
    fun piece hpiece => hask.of_mem_pieces hpiece
  have hstart := startPath_settled hform path.text
  have hq : t.Settled q := h.settled hstored hstart hpieces
  refine hq.resolve_of_realPlace hform hstored ?_
  have hlimit : n ≤ 959 := Nat.le_of_lt_succ hdepth
  obtain ⟨followed, hresolve, -, -⟩ := resolveWithin_of_trail hform hstored h hlimit hstart
    hpieces knows_nil opensFrom_nil
  rw [realPlace_eq, resolveDepth, hresolve]
  simp only [ofText_reachedText hq.isReached]

/-- A path does not resolve if its way has an end and the system cannot be asked about all of
it; what can be stored fails for a NUL. -/
theorem resolve_unaskable (hform : t.WellFormed) (hstored : t.Stored)
    (h : t.Trail n (startPath path.text) (Path.pieces path.text) q) (hdepth : n < resolveDepth)
    (hunaskable : ¬IsAskable path.text) :
    ∃ fault, t.resolve path = .error fault ∧
      ((∀ c ∈ path.text, IsStorable c) → fault = .embeddedNul) := by
  have hpieces : ¬∀ piece ∈ Path.pieces path.text, IsAskable piece := by
    intro hall
    refine hunaskable fun c hc => ?_
    by_cases hslash : c = '/'
    · rw [hslash]
      decide
    · obtain ⟨piece, hpiece, hc⟩ := Text.exists_mem_splitOn hc hslash
      exact hall piece hpiece c hc
  have hlimit : n ≤ 959 := Nat.le_of_lt_succ hdepth
  obtain ⟨mid, bad, fault, hmid, hbad, hname, hcheck, hfails⟩ := resolveWithin_unaskable hform
    hstored h hlimit (startPath_settled hform path.text) hpieces
  refine ⟨fault, by rw [resolve, realPlace_eq, resolveDepth, hfails], fun hstorable => ?_⟩
  have hnul := hmid.checkPath_child_embeddedNul hname fun c hc =>
    hstorable c (Text.mem_of_mem_splitOn hbad hc)
  rw [hcheck] at hnul
  exact Except.error.inj hnul

/-- A path in sight resolves to the place where it leads. -/
theorem resolve_of_status {place : Location} {node : Node} (hform : t.WellFormed)
    (hstored : t.Stored) (h : t.status true path.text = .ok (place, node))
    (hsight : t.InSight path) : t.resolve path = .ok place := by
  obtain ⟨n, q, hn, htrail, -, rfl⟩ := trail_of_status h hsight
  have hdepth : n < resolveDepth := Nat.lt_of_le_of_lt hn (by decide)
  have hask : IsAskable path.text := isAskable_iff.mpr (status_eq_ok_iff.mp h).1
  exact resolve_of_trail hform hstored htrail hdepth hask

end ProseCompiler.Tree
