import ProseCompiler.Proofs.Document.Leftover
import ProseCompiler.Proofs.Document.Refusal

/-!
# The name of a new document and the name in it

A new document names its program by a stem, and the stem with the extension should be the name
of its file (`TellsName`).  The stem is cut off by length, and the name that it is cut from is
that of the resolved path, while the extension was looked for in the path as it was given.  So
the two fit together if and only if there is an extension and the resolved name ends with it
(`name_and_stem_fit_iff`); the second is so unless the path ends with a link.
-/

namespace ProseCompiler.Creation

variable {tree tree' : Tree} {path completed : Path} {language extension name : Text}
  {place : Location}

/-! ## Stems -/

/-- The stem of a name and the extension are the name just if the extension is not empty and the
name ends with it. -/
theorem stem_append_iff (hname : name ≠ []) :
    stem name extension ++ extension = name ↔ extension ≠ [] ∧ extension <:+ name := by
  rw [stem]
  split
  · next hempty => simp [hempty, hname.symm]
  · next hne =>
    constructor
    · intro h
      exact ⟨hne, _, h⟩
    · rintro ⟨-, front, rfl⟩
      rw [List.length_append, Nat.add_sub_cancel, List.take_left]

/-- The text of a new document tells its stem. -/
theorem render_injective {other : Text}
    (h : Template.render name language = Template.render other language) : name = other := by
  have hfilled : ∀ a b d e f g : Text,
      a ++ language ++ b ++ name ++ d ++ e ++ f ++ g =
        a ++ language ++ b ++ other ++ d ++ e ++ f ++ g → name = other := by
    intro a b d e f g hfilled
    simpa using hfilled
  unfold Template.render at h
  exact hfilled _ _ _ _ _ _ h

/-! ## Names with the extension -/

/-- The last name of a completed path has the extension. -/
theorem suffix_of_withExtension (h : withExtension path extension = .ok completed) :
    extension <:+ completed.name := by
  rw [withExtension] at h
  split at h
  · next hends =>
    cases h
    exact List.isSuffixOf_iff_suffix.mp hends
  · rw [Path.withName] at h
    split at h
    · cases h
    · simp only at h
      split at h
      · cases h
      · cases h
        rw [Path.name, List.getLast?_concat, Option.getD_some]
        exact List.suffix_append _ _

/-! ## What the file tells -/

/-- The name of a place is some stem and the extension, and the file that its path leads to is
the document for that stem. -/
def TellsName (tree : Tree) (place : Location) (language extension : Text) : Prop :=
  ∃ stem spot octets, Location.name place = stem ++ extension ∧
    tree.find true (Location.text place) = .ok (spot, some (.file octets)) ∧
    Utf8.encode (Template.render stem language) = .ok octets

/-- The file tells the name if the stem that was cut off and the extension are the name. -/
theorem Course.tellsName_iff (hform : tree.WellFormed)
    (h : Course tree path language extension tree' (.ok place)) :
    TellsName tree' place language extension ↔
      stem (Location.name place) extension ++ extension = Location.name place := by
  obtain ⟨_, spot, octets, -, -, hencode, hfind, -⟩ := h.written_of_succeeded hform
  constructor
  · rintro ⟨name, spot', octets', hsplit, hfind', hencode'⟩
    rw [hfind] at hfind'
    cases hfind'
    have hrender : Template.render name language =
        Template.render (stem (Location.name place) extension) language := by
      have hdecode := Utf8.decode_of_encode hencode
      rw [Utf8.decode_of_encode hencode'] at hdecode
      exact Except.ok.inj hdecode
    rw [← render_injective hrender, hsplit]
  · intro hsplit
    exact ⟨_, spot, octets, hsplit.symm, hfind, hencode⟩

/-- The document that a call writes is the template for the stem that was cut off.  It tells the
name of its file if and only if the extension is not empty and the name ends with it.  The name
ends with it if the path, with its extension, ends with a name that is no link. -/
theorem name_and_stem_fit_iff (hform : tree.WellFormed)
    (hcreated : (create tree path language extension).2 = .ok place) :
    let after := (create tree path language extension).1
    (∃ spot octets, after.find true (Location.text place) = .ok (spot, some (.file octets)) ∧
      Utf8.encode (Template.render (stem (Location.name place) extension) language) =
        .ok octets) ∧
    (TellsName after place language extension ↔
      extension ≠ [] ∧ extension <:+ Location.name place) ∧
    ∀ completed, withExtension path extension = .ok completed → Path.IsName completed.name →
      (completed.anchor ≠ .relative → ¬tree.NamesLink completed) →
      (completed.anchor = .relative → ¬tree.MeetsLink completed) →
      extension <:+ Location.name place := by
  intro after
  have hcourse : Course tree path language extension after (.ok place) :=
    hcreated ▸ create_course tree path language extension
  obtain ⟨completed, spot, octets, hcompleted, hresolve, hencode, hfind, -⟩ :=
    hcourse.written_of_succeeded hform
  have hvacant := isVacant_of_destination hform hcourse.chosen
  have hname : Location.name place ≠ [] := hvacant.isClean.name_ne_nil hvacant.ne_nil
  refine ⟨⟨spot, octets, hfind, hencode⟩, ?_, ?_⟩
  · rw [hcourse.tellsName_iff hform, stem_append_iff hname]
  · intro other hother hlast habsolute hrelative
    rw [hcompleted] at hother
    cases hother
    have hmeets : ¬tree.MeetsLink completed := by
      intro hmeets
      by_cases hanchor : completed.anchor = .relative
      · exact hrelative hanchor hmeets
      · exact habsolute hanchor (hmeets.namesLink hanchor)
    rw [Tree.name_of_resolve_of_not_meetsLink hlast hmeets hresolve]
    exact suffix_of_withExtension hcompleted

/-- The document at `/w/a.gpt` is for a program called `a`. -/
theorem document_tells_its_name :
    let made := create bareTree (Path.ofText "a") "python" ".gpt"
    made.2 = .ok ["w", "a.gpt"] ∧ TellsName made.1 ["w", "a.gpt"] "python" ".gpt" := by
  have hcreated : (create bareTree (Path.ofText "a") "python" ".gpt").2 = .ok ["w", "a.gpt"] := rfl
  have hlink : ¬bareTree.MeetsLink (Path.ofText "a.gpt") := by
    rintro ⟨reached, followed, place, target, hreached, hfound⟩
    cases hreached
    have hnothing : bareTree.find false "a.gpt" = .ok (["w", "a.gpt"], none) := by decide +kernel
    cases hnothing.symm.trans hfound
  obtain ⟨-, htells, hends⟩ := name_and_stem_fit_iff bareTree_wellFormed hcreated
  have hsuffix := hends (Path.ofText "a.gpt") rfl (by decide)
    (fun habsolute => absurd rfl habsolute) fun _ => hlink
  exact ⟨hcreated, htells.mpr ⟨by decide, hsuffix⟩⟩

/-- With an empty extension the document at `/w/a` is for a program without a name. -/
theorem stem_is_lost_without_extension :
    let made := create bareTree (Path.ofText "a") "python" ""
    made.2 = .ok ["w", "a"] ∧ ¬TellsName made.1 ["w", "a"] "python" "" := by
  have hcreated : (create bareTree (Path.ofText "a") "python" "").2 = .ok ["w", "a"] := rfl
  have hcourse := create_course bareTree (Path.ofText "a") "python" ""
  rw [hcreated] at hcourse
  refine ⟨hcreated, ?_⟩
  rw [hcourse.tellsName_iff bareTree_wellFormed]
  decide

end ProseCompiler.Creation
