import ProseCompiler.Document.Creation
import ProseCompiler.Proofs.Document.Target
import ProseCompiler.Proofs.Files.Providing
import ProseCompiler.Proofs.Files.Unlinked

/-!
# New documents overwrite nothing

A call for a new document goes one of five ways (`Course`).  Only two of them open a file, and
the file that is opened was not there before (`Opens.node?_eq_none`): nothing could be reached
at its path before the directories were made, so nothing can be reached there afterwards.

So whatever stood in the tree stands there after a call, and after any number of calls
(`createAll_keeps`).  `calls_overwrite_nothing` adds what a single call does: which calls are
refused because something is there, and what the others leave behind.
-/

namespace ProseCompiler

/-! ## What stays -/

namespace Tree

variable {t t' t'' : Tree} {place : Location} {octets : Bytes}

/-- Whatever stood in a tree still stands there. -/
def Keeps (t t' : Tree) : Prop := ∀ l node, t.node? l = some node → t'.node? l = some node

theorem Keeps.refl (t : Tree) : Keeps t t := fun _ _ => id

theorem Keeps.trans (hfirst : Keeps t t') (hsecond : Keeps t' t'') : Keeps t t'' :=
  fun l node hnode => hsecond l node (hfirst l node hnode)

theorem AddsDirectories.keeps (h : AddsDirectories t t') : Keeps t t' := by
  intro l node hnode
  rcases h.same_or_new l with hsame | ⟨hnone, -⟩
  · rwa [hsame]
  · rw [hnone] at hnode
    cases hnode

theorem PutsFile.keeps (h : PutsFile t t' place octets) (hplace : t.node? place = none) :
    Keeps t t' := by
  intro l node hnode
  have hne : l ≠ place := by
    rintro rfl
    rw [hplace] at hnode
    cases hnode
  rcases h.others l hne with hsame | ⟨hnone, -⟩
  · rwa [hsame]
  · rw [hnone] at hnode
    cases hnode

theorem exists_of_entryExists {path : Text} (h : t.entryExists path = .ok true) :
    ∃ place node, t.find true path = .ok (place, some node) := by
  rw [entryExists, test] at h
  cases hstatus : t.status true path with
  | error fault =>
    rw [hstatus] at h
    simp only at h
    split at h <;> cases h
  | ok found => exact ⟨found.1, found.2, (status_eq_ok_iff.mp hstatus).2⟩

end Tree

namespace Creation

variable {tree tree' made : Tree} {path completed : Path} {language extension : Text}
  {place spot : Location} {octets : Bytes} {problem : Problem}

/-! ## Where a new document goes -/

theorem destination_eq_ok_iff : destination tree path extension = .ok place ↔
    ∃ completed, withExtension path extension = .ok completed ∧
      tree.resolve completed = .ok place ∧ tree.entryExists (Location.text place) = .ok false := by
  rw [destination]
  cases hcompleted : withExtension path extension with
  | error fault => simp
  | ok completed =>
    cases hresolve : tree.resolve completed with
    | error fault => simp [hresolve]
    | ok found =>
      simp only [hresolve, Except.ok.injEq, exists_eq_left']
      constructor
      · intro h
        split at h
        · cases h
        · cases h
        · next hexists =>
          cases h
          exact ⟨rfl, hexists⟩
      · rintro ⟨rfl, hexists⟩
        rw [hexists]

/-- Something that can be reached at the place is in the way. -/
theorem destination_of_found {node : Node}
    (hcompleted : withExtension path extension = .ok completed)
    (hresolve : tree.resolve completed = .ok place)
    (hfind : tree.find true (Location.text place) = .ok (spot, some node)) :
    destination tree path extension =
      .error (.reported (.documentExists (Location.text place))) := by
  have hstatus : tree.status true (Location.text place) = .ok (spot, node) :=
    Tree.status_eq_ok_iff.mpr ⟨Tree.checkPath_of_resolve hresolve, hfind⟩
  have hexists : tree.entryExists (Location.text place) = .ok true := by
    rw [Tree.entryExists, Tree.test, hstatus]
  rw [destination, hcompleted]
  simp only [hresolve, hexists]

/-- A place that a document can go to. -/
structure IsVacant (tree : Tree) (place : Location) : Prop where
  isClean : place.IsClean
  ne_nil : place ≠ []
  checkPath_eq : Tree.checkPath (Location.text place) = .ok ()
  find_ne : ∀ p node, tree.find true (Location.text place) ≠ .ok (p, some node)

theorem isVacant_of_destination (hform : tree.WellFormed)
    (h : destination tree path extension = .ok place) : IsVacant tree place := by
  obtain ⟨completed, -, hresolve, hexists⟩ := destination_eq_ok_iff.mp h
  have hvacant : ∀ p node, tree.find true (Location.text place) ≠ .ok (p, some node) := by
    intro p node hfind
    have hstatus : tree.status true (Location.text place) = .ok (p, node) :=
      Tree.status_eq_ok_iff.mpr ⟨Tree.checkPath_of_resolve hresolve, hfind⟩
    rw [Tree.entryExists, Tree.test, hstatus] at hexists
    cases hexists
  refine ⟨Tree.resolve_isClean (hform.isClean hform.workingDirectory_isDirectory) hresolve, ?_,
    Tree.checkPath_of_resolve hresolve, hvacant⟩
  rintro rfl
  exact hvacant _ _ (Tree.find_text_nil tree)

/-! ## Directories -/

theorem provide_adds {result : Except Fault Unit}
    (h : tree.provide (Path.ofLocation place) = (made, result)) : tree.AddsDirectories made := by
  have hadds := tree.provideDirectory_adds .root place.reverse
  rwa [← Tree.provide_ofLocation, h] at hadds

theorem wellFormed_of_provide {result : Except Fault Unit} (hform : tree.WellFormed)
    (h : tree.provide (Path.ofLocation place) = (made, result)) : made.WellFormed := by
  have hform' := hform.provideDirectory .root place.reverse
  rwa [← Tree.provide_ofLocation, h] at hform'

theorem provides_of_provide (hform : tree.WellFormed) (hvacant : IsVacant tree place)
    (h : tree.provide (Path.ofLocation (Location.parent place)) = (made, .ok ())) :
    tree.Provides made (Location.parent place) := by
  have hclean := hvacant.isClean.parent
  rw [← List.reverse_reverse (Location.parent place)] at hclean ⊢
  exact .of_provideDirectory hform hclean h

/-- Whatever comes of making the directories, nothing can be reached at the place afterwards. -/
theorem find_ne_of_provide {result : Except Fault Unit} (hform : tree.WellFormed)
    (hvacant : IsVacant tree place)
    (h : tree.provide (Path.ofLocation (Location.parent place)) = (made, result)) :
    ∀ p node, made.find true (Location.text place) ≠ .ok (p, some node) := by
  cases result with
  | ok =>
    have hsame := tree.provideDirectory_sameOrGrown .root (Location.parent place).reverse
    rw [← Tree.provide_ofLocation, h] at hsame
    exact (provides_of_provide hform hvacant h).vacant hform hvacant.isClean hvacant.ne_nil hsame
      hvacant.find_ne
  | error fault =>
    -- The directory cannot be entered, so no lookup gets past it.
    intro p node hfind
    have hclean := hvacant.isClean.parent
    rw [← List.reverse_reverse (Location.parent place)] at hclean
    have henter := Tree.provideDirectory_error hclean h
    rw [List.reverse_reverse] at henter
    have hsplit : place = Location.parent place ++ [place.getLast hvacant.ne_nil] :=
      (List.dropLast_concat_getLast hvacant.ne_nil).symm
    have hplace := hvacant.isClean
    have hcheck := hvacant.checkPath_eq
    rw [hsplit] at hplace hcheck hfind
    rw [Tree.canEnter_of_find_concat hplace hcheck hfind] at henter
    cases henter

/-! ## What a call does -/

/-- The text of a new document. -/
def content (place : Location) (language extension : Text) : Text :=
  Template.render (stem (Location.name place) extension) language

/-- A call opens a file: its directories are there, and its path leads to a spot that can be
written to. -/
structure Opens (tree : Tree) (path : Path) (extension : Text) (place : Location) (made : Tree)
    (spot : Location) : Prop where
  chosen : destination tree path extension = .ok place
  provided : tree.provide (Path.ofLocation (Location.parent place)) = (made, .ok ())
  opened : ∃ old, made.writable (Location.text place) = .ok (spot, old)

/-- How a call goes: it is refused at once, it cannot make its directories or open its file, its
text cannot be encoded, or its text is written. -/
inductive Course (tree : Tree) (path : Path) (language extension : Text) :
    Tree → Except Problem Location → Prop where
  | refused {problem : Problem} : destination tree path extension = .error problem →
      Course tree path language extension tree (.error problem)
  | unprovided {place : Location} {made : Tree} {fault : Fault} :
      destination tree path extension = .ok place →
      tree.provide (Path.ofLocation (Location.parent place)) = (made, .error fault) →
      Course tree path language extension made (.error (.unexpected fault))
  | unopened {place : Location} {made : Tree} {fault : Fault} :
      destination tree path extension = .ok place →
      tree.provide (Path.ofLocation (Location.parent place)) = (made, .ok ()) →
      made.writable (Location.text place) = .error fault →
      Course tree path language extension made (.error (.unexpected fault))
  | unencoded {place spot : Location} {made : Tree} {stretch : EncodeFault} :
      Opens tree path extension place made spot →
      Utf8.encode (content place language extension) = .error stretch →
      Course tree path language extension (made.put spot (.file []))
        (.error (.unexpected (.unencodable stretch)))
  | written {place spot : Location} {made : Tree} {octets : Bytes} :
      Opens tree path extension place made spot →
      Utf8.encode (content place language extension) = .ok octets →
      Course tree path language extension (made.put spot (.file octets)) (.ok place)

theorem create_course (tree : Tree) (path : Path) (language extension : Text) :
    Course tree path language extension (create tree path language extension).1
      (create tree path language extension).2 := by
  rw [create]
  cases hchosen : destination tree path extension with
  | error problem => exact .refused hchosen
  | ok place =>
    rcases hprovide : tree.provide (Path.ofLocation (Location.parent place)) with
      ⟨made, fault | _⟩
    · simp only [hprovide]
      exact .unprovided hchosen hprovide
    · simp only [hprovide, Tree.writeText]
      cases hwritable : made.writable (Location.text place) with
      | error fault => exact .unopened hchosen hprovide hwritable
      | ok opened =>
        obtain ⟨spot, old⟩ := opened
        have hopens : Opens tree path extension place made spot :=
          ⟨hchosen, hprovide, old, hwritable⟩
        cases hencode : Utf8.encode (content place language extension) with
        | error stretch =>
          rw [content] at hencode
          simp only [hencode]
          exact .unencoded hopens hencode
        | ok octets =>
          rw [content] at hencode
          simp only [hencode]
          exact .written hopens hencode

namespace Opens

variable (h : Opens tree path extension place made spot) (hform : tree.WellFormed)
include h hform

theorem provides : tree.Provides made (Location.parent place) :=
  provides_of_provide hform (isVacant_of_destination hform h.chosen) h.provided

/-- Nothing can be reached at the place when its file is opened. -/
theorem find_eq : made.find true (Location.text place) = .ok (spot, none) := by
  have hnone := find_ne_of_provide hform (isVacant_of_destination hform h.chosen) h.provided
  obtain ⟨old, hopen⟩ := h.opened
  obtain ⟨n, hfind⟩ := Tree.find_of_writable hopen
  cases n with
  | none => exact hfind
  | some node => exact absurd hfind (hnone spot node)

/-- The file that is opened is new. -/
theorem node?_eq_none : tree.node? spot = none := by
  have hmade : none = made.node? spot := Tree.node?_of_find (h.find_eq hform)
  rcases (h.provides hform).adds.same_or_new spot with hsame | ⟨hnone, -⟩
  · rw [← hsame, ← hmade]
  · exact hnone

theorem putsFile (octets : Bytes) :
    tree.PutsFile (made.put spot (.file octets)) spot octets := by
  have hvacant := isVacant_of_destination hform h.chosen
  obtain ⟨old, hopen⟩ := h.opened
  exact (h.provides hform).putsFile hform hvacant.isClean hvacant.ne_nil hopen octets

/-- A place behind no link is itself what is opened. -/
theorem spot_eq (hlinks : tree.Unlinked place) : spot = place := by
  have hclean := (isVacant_of_destination hform h.chosen).isClean
  have hlinks' : made.Unlinked place := by
    intro above habove target htarget
    rcases (h.provides hform).adds.same_or_new above with hsame | ⟨-, hdirectory⟩
    · exact hlinks above habove target (hsame ▸ htarget)
    · rw [hdirectory] at htarget
      cases htarget
  have hfind := h.find_eq hform
  rcases Tree.find_of_unlinked hclean hlinks' with hplace | ⟨error, herror, -⟩
  · rw [hplace] at hfind
    exact (Prod.mk.inj (Except.ok.inj hfind)).1.symm
  · rw [herror] at hfind
    cases hfind

end Opens

/-! ## Single calls -/

namespace Course

variable {result : Except Problem Location} (hform : tree.WellFormed)
  (h : Course tree path language extension tree' result)
include hform h

theorem keeps : tree.Keeps tree' := by
  cases h with
  | refused => exact .refl tree
  | unprovided _ hprovide | unopened _ hprovide => exact (provide_adds hprovide).keeps
  | unencoded hopens | written hopens =>
    exact (hopens.putsFile hform _).keeps (hopens.node?_eq_none hform)

theorem wellFormed : tree'.WellFormed := by
  cases h with
  | refused => exact hform
  | unprovided _ hprovide | unopened _ hprovide => exact wellFormed_of_provide hform hprovide
  | unencoded hopens | written hopens =>
    obtain ⟨old, hopen⟩ := hopens.opened
    exact (wellFormed_of_provide hform hopens.provided).put_of_writable hopen _

end Course

theorem Course.chosen (h : Course tree path language extension tree' (.ok place)) :
    destination tree path extension = .ok place := by
  cases h with
  | written hopens => exact hopens.chosen

/-- A call does nothing if something can be reached at its place. -/
theorem create_of_found {node : Node} (hcompleted : withExtension path extension = .ok completed)
    (hresolve : tree.resolve completed = .ok place)
    (hfind : tree.find true (Location.text place) = .ok (spot, some node)) :
    create tree path language extension =
      (tree, .error (.reported (.documentExists (Location.text place)))) := by
  rw [create, destination_of_found hcompleted hresolve hfind]

/-- Only a call at whose place something can be reached is refused because of that. -/
theorem Course.found_of_exists (hcompleted : withExtension path extension = .ok completed)
    (hresolve : tree.resolve completed = .ok place)
    (h : Course tree path language extension tree'
      (.error (.reported (.documentExists (Location.text place))))) :
    ∃ spot node, tree.find true (Location.text place) = .ok (spot, some node) := by
  cases h with
  | refused hrefused =>
    simp only [destination, hcompleted, hresolve] at hrefused
    split at hrefused
    · cases hrefused
    · next hexists => exact Tree.exists_of_entryExists hexists
    · cases hrefused

/-- A call is refused because something is there just if something can be reached at its
place. -/
theorem found_iff_exists (hcompleted : withExtension path extension = .ok completed)
    (hresolve : tree.resolve completed = .ok place) (language : Text) :
    (∃ spot node, tree.find true (Location.text place) = .ok (spot, some node)) ↔
      (create tree path language extension).2 =
        .error (.reported (.documentExists (Location.text place))) := by
  constructor
  · rintro ⟨spot, node, hfind⟩
    rw [create_of_found hcompleted hresolve hfind]
  · intro hrefused
    have hcourse := create_course tree path language extension
    rw [hrefused] at hcourse
    exact hcourse.found_of_exists hcompleted hresolve

/-- A call that succeeds puts one new file where the path that it returns leads to, and does
nothing else but to make directories above it. -/
theorem Course.written_of_succeeded (hform : tree.WellFormed)
    (h : Course tree path language extension tree' (.ok place)) :
    ∃ completed spot octets, withExtension path extension = .ok completed ∧
      tree.resolve completed = .ok place ∧
      Utf8.encode (content place language extension) = .ok octets ∧
      tree'.find true (Location.text place) = .ok (spot, some (.file octets)) ∧
      tree.node? spot = none ∧ tree.PutsFile tree' spot octets ∧
      (tree.Unlinked place → spot = place) := by
  cases h with
  | @written _ spot made octets hopens hencode =>
    obtain ⟨completed, hcompleted, hresolve, -⟩ := destination_eq_ok_iff.mp hopens.chosen
    obtain ⟨old, hopen⟩ := hopens.opened
    exact ⟨completed, spot, octets, hcompleted, hresolve, hencode,
      Tree.find_put_of_writable hopen octets, hopens.node?_eq_none hform,
      hopens.putsFile hform octets, hopens.spot_eq hform⟩

/-! ## Any number of calls -/

/-- What every call keeps is kept by all of them, and the tree stays well formed. -/
theorem createAll_keeps (hform : tree.WellFormed) (calls : List Call) :
    tree.Keeps (createAll tree calls).1 ∧ (createAll tree calls).1.WellFormed := by
  induction calls generalizing tree with
  | nil => exact ⟨.refl tree, hform⟩
  | cons call rest ih =>
    have hcourse := create_course tree call.path call.language call.extension
    obtain ⟨hkeeps, hform'⟩ := ih (hcourse.wellFormed hform)
    exact ⟨(hcourse.keeps hform).trans hkeeps, hform'⟩

/-- Whatever calls came before, and however this one ends, nothing that stood in the tree is
touched.  A call is refused because something is there if and only if its path, with its
extension, resolves to a place at which something can be reached, and then it does nothing.  A
call that succeeds puts one new file where the path that it returns leads to, with directories
above it where nothing stood, and does nothing else; if that path is behind no link, then the
file stands at the path itself. -/
theorem calls_overwrite_nothing (hform : tree.WellFormed) (earlier : List Call) (call : Call) :
    let before := (createAll tree earlier).1
    let after := (create before call.path call.language call.extension).1
    let result := (create before call.path call.language call.extension).2
    tree.Keeps before ∧ before.Keeps after ∧
      (∀ completed place, withExtension call.path call.extension = .ok completed →
        before.resolve completed = .ok place →
        ((∃ spot node, before.find true (Location.text place) = .ok (spot, some node)) ↔
          result = .error (.reported (.documentExists (Location.text place)))) ∧
        (result = .error (.reported (.documentExists (Location.text place))) → after = before)) ∧
      ∀ place, result = .ok place →
        ∃ completed spot octets, withExtension call.path call.extension = .ok completed ∧
          before.resolve completed = .ok place ∧
          Utf8.encode (content place call.language call.extension) = .ok octets ∧
          after.find true (Location.text place) = .ok (spot, some (.file octets)) ∧
          before.node? spot = none ∧ before.PutsFile after spot octets ∧
          (before.Unlinked place → spot = place) := by
  intro before after result
  obtain ⟨hkeeps, hform'⟩ : tree.Keeps before ∧ before.WellFormed := createAll_keeps hform earlier
  have hcourse : Course before call.path call.language call.extension after result :=
    create_course before call.path call.language call.extension
  refine ⟨hkeeps, hcourse.keeps hform', ?_, ?_⟩
  · intro completed place hcompleted hresolve
    have hfound := found_iff_exists hcompleted hresolve call.language
    refine ⟨hfound, fun hrefused => ?_⟩
    obtain ⟨spot, node, hfind⟩ := hfound.mpr hrefused
    exact congrArg Prod.fst (create_of_found hcompleted hresolve hfind)
  · intro place hsucceeded
    rw [hsucceeded] at hcourse
    exact hcourse.written_of_succeeded hform'

/-- A directory with a document in it, beside one that is reached through a link. -/
def shelfTree : Tree where
  entries := [(["w"], .directory), (["w", "real"], .directory), (["w", "link"], .link "real"),
    (["w", "kept.gpt"], .file [104, 105])]
  workingDirectory := ["w"]

theorem shelfTree_wellFormed : shelfTree.WellFormed := .of_entries (by decide) (by decide)

/-- The first of these calls makes a directory behind the link, the second is refused. -/
def shelfCalls : List Call :=
  [⟨Path.ofText "link/new/a", "python", ".gpt"⟩, ⟨Path.ofText "kept", "python", ".gpt"⟩]

/-- The next call puts its file beside that of the first. -/
theorem shelf_call_overwrites_nothing :
    let before := (createAll shelfTree shelfCalls).1
    let made := create before (Path.ofText "link/new/b.gpt") "rust" ".gpt"
    shelfTree.Keeps before ∧ before.Keeps made.1 ∧ made.2 = .ok ["w", "real", "new", "b.gpt"] ∧
      ∃ spot octets, made.1.find true "/w/real/new/b.gpt" = .ok (spot, some (.file octets)) ∧
        before.PutsFile made.1 spot octets := by
  have hmade : (create (createAll shelfTree shelfCalls).1 (Path.ofText "link/new/b.gpt") "rust"
      ".gpt").2 = .ok ["w", "real", "new", "b.gpt"] := rfl
  obtain ⟨hearlier, hkeeps, -, hsucceeds⟩ := calls_overwrite_nothing shelfTree_wellFormed shelfCalls
    ⟨Path.ofText "link/new/b.gpt", "rust", ".gpt"⟩
  obtain ⟨_, spot, octets, -, -, -, hfind, -, hputs, -⟩ := hsucceeds _ hmade
  exact ⟨hearlier, hkeeps, hmade, spot, octets, hfind, hputs⟩

end Creation

end ProseCompiler
