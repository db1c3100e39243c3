import ProseCompiler.Proofs.Document.Creation

/-!
# What a failed call leaves behind

A call for a new document opens its file before it encodes the text, so a text that holds a
lone surrogate leaves an empty file (`Leaves`).  The text is made of the language, the stem of
the name and fixed parts, so the surrogate is in one of those two (`isSurrogate_content_iff`).

That is the only way in which a failed call changes a file, and the only way in which it stands
in the way of a later call to the same place (`failed_call_leaves_file_iff`).  Directories that
it has made do not: nothing can be reached below a path that cannot be entered.
-/

namespace ProseCompiler.Creation

variable {tree tree' made : Tree} {path completed : Path} {language extension : Text}
  {place spot : Location} {problem : Problem}

/-! ## Texts without octets -/

theorem not_isSurrogate_extension (language : Text) :
    ∀ c ∈ Language.extension language, ¬c.isSurrogate = true := by
  have hall : ∀ name ∈ Language.plainExtension :: Language.extensions.map Prod.snd,
      ∀ c ∈ name, ¬c.isSurrogate = true := by
    decide
  exact hall _ (Language.mem_extensions_or_plain language)

/-- What is in a text that is made of two texts and of parts that hold nothing of the kind. -/
theorem exists_mem_filled_iff {P : CodePoint → Prop} {first second a b d e f g : Text}
    (hparts : ∀ part ∈ [a, b, d, f, g], ∀ c ∈ part, ¬P c) (he : ∀ c ∈ e, ¬P c) :
    (∃ c ∈ a ++ first ++ b ++ second ++ d ++ e ++ f ++ g, P c) ↔ ∃ c ∈ first ++ second, P c := by
  simp only [List.forall_mem_cons] at hparts
  simp only [List.mem_append]
  grind

/-- A surrogate in the text of a new document is one of its language or of its stem. -/
theorem isSurrogate_content_iff : (∃ c ∈ content place language extension, c.isSurrogate = true) ↔
    ∃ c ∈ language ++ stem (Location.name place) extension, c.isSurrogate = true := by
  have hfixed : ∀ part ∈ (["@language: ", "\n@output: ", ".", "\n\n", Template.body] : List Text),
      ∀ c ∈ part, ¬c.isSurrogate = true := by
    decide
  unfold content Template.render
  generalize Template.body = rest at hfixed ⊢
  exact exists_mem_filled_iff hfixed (not_isSurrogate_extension language)

/-! ## Files that are left -/

/-- A call leaves an empty file at a spot: it opens the file there, and its language or the stem
of its name holds a lone surrogate. -/
def Leaves (tree : Tree) (path : Path) (language extension : Text) (spot : Location) : Prop :=
  ∃ place made, Opens tree path extension place made spot ∧
    ∃ c ∈ language ++ stem (Location.name place) extension, c.isSurrogate = true

theorem Opens.unique {place' spot' : Location} {made' : Tree}
    (h : Opens tree path extension place made spot)
    (h' : Opens tree path extension place' made' spot') : place' = place ∧ spot' = spot := by
  obtain ⟨hchosen, hprovided, old, hopened⟩ := h
  obtain ⟨hchosen', hprovided', old', hopened'⟩ := h'
  rw [hchosen] at hchosen'
  cases hchosen'
  rw [hprovided] at hprovided'
  cases hprovided'
  rw [hopened] at hopened'
  cases hopened'
  exact ⟨rfl, rfl⟩

/-- A failed call has opened the file at its spot for a text without octets, or it has opened no
file and added directories at most. -/
theorem Course.cases_of_failed (h : Course tree path language extension tree' (.error problem)) :
    (∃ place made spot, Opens tree path extension place made spot ∧
      (∃ c ∈ language ++ stem (Location.name place) extension, c.isSurrogate = true) ∧
      tree' = made.put spot (.file [])) ∨
    (∀ place made spot, ¬Opens tree path extension place made spot) ∧
      tree.AddsDirectories tree' := by
  cases h with
  | refused hrefused =>
    refine .inr ⟨fun place made spot hopens => ?_, .refl tree⟩
    have hchosen := hopens.chosen
    rw [hrefused] at hchosen
    cases hchosen
  | unprovided hchosen hprovide =>
    refine .inr ⟨fun place made spot hopens => ?_, provide_adds hprovide⟩
    have hchosen' := hopens.chosen
    have hprovided := hopens.provided
    rw [hchosen] at hchosen'
    cases hchosen'
    rw [hprovide] at hprovided
    cases hprovided
  | unopened hchosen hprovide hwritable =>
    refine .inr ⟨fun place made spot hopens => ?_, provide_adds hprovide⟩
    have hchosen' := hopens.chosen
    have hprovided := hopens.provided
    obtain ⟨old, hopened⟩ := hopens.opened
    rw [hchosen] at hchosen'
    cases hchosen'
    rw [hprovide] at hprovided
    cases hprovided
    rw [hwritable] at hopened
    cases hopened
  | @unencoded place spot made stretch hopens hencode =>
    have hsurrogate := Utf8.encode_isError_iff.mp ⟨stretch, hencode⟩
    exact .inl ⟨place, made, spot, hopens, isSurrogate_content_iff.mp hsurrogate, rfl⟩

/-- A call that leaves a file leaves it where nothing stood, and any other failed call leaves the
files as they were. -/
theorem files_of_failed (hform : tree.WellFormed)
    (h : Course tree path language extension tree' (.error problem)) :
    (Leaves tree path language extension spot →
      tree.node? spot = none ∧ tree'.node? spot = some (.file [])) ∧
    (¬Leaves tree path language extension spot → ∀ octets,
      tree'.node? spot = some (.file octets) ↔ tree.node? spot = some (.file octets)) := by
  rcases h.cases_of_failed with ⟨place, made, l, hopens, hsurrogate, rfl⟩ | ⟨hnone, hadds⟩
  · have hputs := hopens.putsFile hform []
    constructor
    · rintro ⟨place', made', hopens', -⟩
      obtain ⟨-, rfl⟩ := hopens.unique hopens'
      exact ⟨hopens.node?_eq_none hform, hputs.holds⟩
    · intro hleaves octets
      have hne : spot ≠ l := by
        rintro rfl
        exact hleaves ⟨place, made, hopens, hsurrogate⟩
      rcases hputs.others spot hne with hsame | ⟨hbefore, hdirectory, -⟩
      · rw [hsame]
      · simp [hbefore, hdirectory]
  · refine ⟨?_, fun _ octets => hadds.file_iff⟩
    rintro ⟨place, made, hopens, -⟩
    exact absurd hopens (hnone place made spot)

/-- After a failed call something can be reached at the place that it came to if and only if it
left a file. -/
theorem found_of_failed_iff (hform : tree.WellFormed)
    (hchosen : destination tree path extension = .ok place)
    (h : Course tree path language extension tree' (.error problem)) :
    (∃ p node, tree'.find true (Location.text place) = .ok (p, some node)) ↔
      ∃ spot, Leaves tree path language extension spot := by
  have hvacant := isVacant_of_destination hform hchosen
  -- A call that leaves a file opens it at the place that it came to.
  have hplace : ∀ {other : Location} {made : Tree} {spot : Location},
      Opens tree path extension other made spot → other = place := by
    intro other made spot hopens
    have hchosen' := hopens.chosen
    rw [hchosen] at hchosen'
    exact (Except.ok.inj hchosen').symm
  rcases h.cases_of_failed with ⟨other, made, spot, hopens, hsurrogate, rfl⟩ | ⟨hnone, -⟩
  · obtain rfl := hplace hopens
    obtain ⟨old, hopen⟩ := hopens.opened
    exact iff_of_true ⟨spot, .file [], Tree.find_put_of_writable hopen []⟩
      ⟨spot, other, made, hopens, hsurrogate⟩
  · refine iff_of_false ?_ ?_
    · rintro ⟨p, node, hfind⟩
      cases h with
      | refused hrefused =>
        rw [hrefused] at hchosen
        cases hchosen
      | unprovided hchosen' hprovide | unopened hchosen' hprovide =>
        rw [hchosen] at hchosen'
        cases hchosen'
        exact find_ne_of_provide hform hvacant hprovide p node hfind
      | unencoded hopens => exact hnone _ _ _ hopens
    · rintro ⟨spot, other, made, hopens, -⟩
      exact hnone other made spot hopens

/-- After a call that fails, a file that it left is new and empty, and every other file is as it
was.  So the files are as they were if and only if no file is left.  A later call that comes to
the same place is refused because something is there if and only if a file is left. -/
theorem failed_call_leaves_file_iff (hform : tree.WellFormed)
    (hfailed : (create tree path language extension).2 = .error problem) :
    let after := (create tree path language extension).1
    (∀ spot, Leaves tree path language extension spot →
      tree.node? spot = none ∧ after.node? spot = some (.file [])) ∧
    (∀ spot, ¬Leaves tree path language extension spot → ∀ octets,
      after.node? spot = some (.file octets) ↔ tree.node? spot = some (.file octets)) ∧
    ((∀ spot octets,
      after.node? spot = some (.file octets) ↔ tree.node? spot = some (.file octets)) ↔
        ¬∃ spot, Leaves tree path language extension spot) ∧
    ∀ place (again : Call) completed, destination tree path extension = .ok place →
      withExtension again.path again.extension = .ok completed →
      after.resolve completed = .ok place →
      ((create after again.path again.language again.extension).2 =
          .error (.reported (.documentExists (Location.text place))) ↔
        ∃ spot, Leaves tree path language extension spot) := by
  intro after
  have hcourse : Course tree path language extension after (.error problem) :=
    hfailed ▸ create_course tree path language extension
  have hfiles := fun spot => @files_of_failed tree after path language extension spot problem hform
    hcourse
  refine ⟨fun spot => (hfiles spot).1, fun spot => (hfiles spot).2, ?_, ?_⟩
  · constructor
    · rintro hkept ⟨spot, hleaves⟩
      obtain ⟨hnone, hempty⟩ := (hfiles spot).1 hleaves
      rw [(hkept spot []).mp hempty] at hnone
      cases hnone
    · intro hnone spot octets
      exact (hfiles spot).2 (fun hleaves => hnone ⟨spot, hleaves⟩) octets
  · intro place again completed hchosen hcompleted hresolve
    rw [← found_of_failed_iff hform hchosen hcourse]
    exact (found_iff_exists hcompleted hresolve again.language).symm

/-! ## A surrogate in the language -/

def bareTree : Tree where
  entries := [(["w"], .directory)]
  workingDirectory := ["w"]

theorem bareTree_wellFormed : bareTree.WellFormed := .of_entries (by decide) (by decide)

/-- What an octet becomes that is no part of UTF-8. -/
def strayLanguage : Text := [CodePoint.ofNat 0xDCFF]

/-- The call for `a` fails, and so does the same call with a proper language. -/
def strayCall : Tree × Except Problem Location :=
  create bareTree (Path.ofText "a") strayLanguage ".gpt"

theorem strayCall_eq :
    strayCall.2 = .error (.unexpected (.unencodable
      ⟨"utf-8", CodePoint.ofNat 0xDCFF, 11, 1, "surrogates not allowed"⟩)) ∧
    bareTree.node? ["w", "a.gpt"] = none ∧
    strayCall.1.node? ["w", "a.gpt"] = some (.file []) := by
  refine ⟨rfl, by decide, by decide +kernel⟩

/-- A failed call leaves a file that was not there, and is refused when it is made again with a
proper language. -/
theorem stray_call_leaves_file :
    ∃ problem, strayCall.2 = .error problem ∧ bareTree.node? ["w", "a.gpt"] = none ∧
      strayCall.1.node? ["w", "a.gpt"] = some (.file []) ∧
      (create strayCall.1 (Path.ofText "a") "python" ".gpt").2 =
        .error (.reported (.documentExists "/w/a.gpt")) :=
  ⟨_, strayCall_eq.1, strayCall_eq.2.1, strayCall_eq.2.2, rfl⟩

/-- It is there because the call came to opening it. -/
theorem stray_file_is_left :
    (∃ problem, strayCall.2 = .error problem) ∧
      Leaves bareTree (Path.ofText "a") strayLanguage ".gpt" ["w", "a.gpt"] := by
  obtain ⟨hfailed, hnone, hempty⟩ := strayCall_eq
  refine ⟨⟨_, hfailed⟩, ?_⟩
  by_contra hleaves
  have hkept := (failed_call_leaves_file_iff bareTree_wellFormed hfailed).2.1 _ hleaves []
  have hbefore := hkept.mp hempty
  rw [hnone] at hbefore
  cases hbefore

end ProseCompiler.Creation
