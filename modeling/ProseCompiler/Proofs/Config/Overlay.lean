import ProseCompiler.Proofs.Config.Loading
import ProseCompiler.Proofs.Json.Members

/-!
# What a configuration file leaves behind

A file lists members, some of them under one name.  `SetsOnly` says that the fields of
some names hold what the values that come last are coerced to, and that every other field
is as it was.  If all those values fit, the fields of all names are set, whatever the
order, and setting them again changes nothing.  If one does not fit, the fields are set
whose names first came before its name: `loadFile_sets_fields`.
-/

namespace ProseCompiler

namespace Config

open Json (firstNames last? merge)

/-- The file at a path lists members, and they are all of it. -/
def HoldsMembers (tree : Tree) (path : Text) (members : List (Text × Json)) : Prop :=
  ∃ text, tree.readText (Path.ofText path).text = .ok text ∧ Json.Lists text members

/-- The fields of some names hold what the last values of members are coerced to, and
every other field is as it was. -/
structure SetsOnly (config : Config) (members : List (Text × Json)) (names : List Text)
    (config' : Config) : Prop where
  named : ∀ field : Field, field.name ∈ names →
    ∃ value, last? members field.name = some value ∧ field.coerce value = .ok (config'.get field)
  others : ∀ field : Field, field.name ∉ names → config'.get field = config.get field

variable {config config' : Config} {tree : Tree} {path : Text}
  {members before after : List (Text × Json)}

theorem nodup_names_merge (members : List (Text × Json)) :
    ((merge members).map Prod.fst).Nodup := by
  induction members using List.reverseRecOn with
  | nil => exact List.nodup_nil
  | append_singleton members member ih =>
    rw [Json.merge_concat]
    exact nodup_keys_put _ _ ih

theorem loadFile_of_holdsMembers (hfile : HoldsMembers tree path members) (config : Config) :
    config.loadFile tree path = config.overlay (merge members) := by
  obtain ⟨text, htext, hlists⟩ := hfile
  have hholds : Holds tree path (merge members) :=
    ⟨text, htext, Json.read_object_iff.mpr ⟨members, hlists, rfl⟩⟩
  rw [loadFile, readFile_eq_ok_iff.mpr hholds]

/-- The layer of an object is that of the values that came last. -/
theorem fileLayer_merge (members : List (Text × Json)) :
    fileLayer (merge members) = fun field =>
      (last? members field.name).map fun value => (field.coerce value).toOption := by
  funext field
  rw [fileLayer, Json.lookup_merge]

theorem fits_merge_iff :
    Fits (merge members) ↔ ∀ (field : Field) (value : Json),
      last? members field.name = some value → ∃ content, field.coerce value = .ok content := by
  simp only [Fits, mem_iff_lookup_eq_some (nodup_names_merge members), Json.lookup_merge]

/-- A configuration that takes the layer of the first fields has just these set. -/
theorem setsOnly_of_takes (hmerge : merge members = before ++ after)
    (htakes : config.Takes (fileLayer before) config') :
    SetsOnly config members (before.map Prod.fst) config' := by
  refine ⟨fun field hname => ?_, fun field hname => ?_⟩
  · obtain ⟨value, hvalue⟩ : ∃ value, before.lookup field.name = some value := by
      rw [← Option.isSome_iff_exists, List.lookup_isSome_iff]
      obtain ⟨entry, hentry, hsame⟩ := List.mem_map.mp hname
      exact ⟨entry, hentry, by simp [hsame]⟩
    refine ⟨value, ?_, ?_⟩
    · rw [← Json.lookup_merge, hmerge, List.lookup_append, hvalue, Option.some_or]
    · have hfield := htakes field
      rw [fileLayer, hvalue] at hfield
      cases hcoerce : field.coerce value with
      | error reason =>
        simp [hcoerce, Except.toOption] at hfield
      | ok content =>
        simp only [Option.map_some, hcoerce, Except.toOption, Option.some.injEq] at hfield
        rw [hfield]
  · have hfield := htakes field
    rw [fileLayer_eq_none hname] at hfield
    exact hfield

/-- Taking a layer again changes nothing. -/
theorem Takes.again {layer : Layer} (h : config.Takes layer config') :
    config'.Takes layer config' := by
  intro field
  have hfield := h field
  cases hlayer : layer field with
  | none => rfl
  | some content =>
    rw [hlayer] at hfield
    exact hfield

/-- Values that fit are laid over a configuration. -/
theorem exists_takes_of_fits (config : Config) (hfits : Fits (merge members)) :
    ∃ config', config.overlay (merge members) = (config', none) ∧
      config.Takes (fileLayer (merge members)) config' := by
  obtain ⟨config', hoverlay, -⟩ := overlay_append config hfits
  exact ⟨config', hoverlay, (overlay_eq_iff (nodup_names_merge members)).mp hoverlay⟩

/-- A value that does not fit ends the overlay behind the names that came before its own. -/
theorem exists_setsOnly_of_misfit (config : Config) (hmisfit : ¬Fits (merge members)) :
    ∃ (before after : List Text) (field : Field) (config' : Config) (problem : Problem),
      firstNames members = before ++ field.name :: after ∧
        (∃ value reason, last? members field.name = some value ∧
          field.coerce value = .error reason) ∧
        config.overlay (merge members) = (config', some problem) ∧
        SetsOnly config members before config' := by
  obtain ⟨before, after, field, value, reason, hmerge, hbefore, hreason⟩ :=
    (fits_or_misfit (merge members)).resolve_left hmisfit
  obtain ⟨config', hoverlay, hproblem⟩ := overlay_misfit config hbefore hreason after
  have hapart := nodup_names_merge members
  have hlast : last? members field.name = some value := by
    rw [← Json.lookup_merge, ← mem_iff_lookup_eq_some hapart, hmerge]
    simp
  have hnames : firstNames members =
      before.map Prod.fst ++ field.name :: after.map Prod.fst := by
    rw [← Json.names_merge, hmerge, List.map_append, List.map_cons]
  have htakes : config.Takes (fileLayer before) config' := by
    rw [hmerge, List.map_append, List.nodup_append] at hapart
    exact (overlay_eq_iff hapart.1).mp hoverlay
  rw [← hmerge] at hproblem
  exact ⟨_, _, field, config', _, hnames, ⟨value, reason, hlast, hreason⟩, hproblem,
    setsOnly_of_takes hmerge htakes⟩

/-- What loading a file of members leaves behind.  If the last value under every name of a
field fits, the fields of all names are set and no other is; any file with these last
values, in whatever order, leaves the same behind, and loading the file again changes
nothing.  If one does not fit, there is a name at which loading ends, and the fields are
set whose names first came before it, and no other is. -/
theorem loadFile_sets_fields (config : Config) (tree : Tree) (path : Text)
    (members : List (Text × Json)) (hfile : HoldsMembers tree path members) :
    ((∀ (field : Field) (value : Json), last? members field.name = some value →
        ∃ content, field.coerce value = .ok content) →
      ∃ config', config.loadFile tree path = (config', none) ∧
        SetsOnly config members (firstNames members) config' ∧
        (∀ tree' path' members', HoldsMembers tree' path' members' →
          (∀ field : Field, last? members' field.name = last? members field.name) →
          config.loadFile tree' path' = (config', none)) ∧
        config'.loadFile tree path = (config', none)) ∧
    ((∃ (field : Field) (value : Json) (reason : Field.Misfit),
        last? members field.name = some value ∧ field.coerce value = .error reason) →
      ∃ (before after : List Text) (field : Field) (config' : Config) (problem : Problem),
        firstNames members = before ++ field.name :: after ∧
        (∃ value reason, last? members field.name = some value ∧
          field.coerce value = .error reason) ∧
        config.loadFile tree path = (config', some problem) ∧
        SetsOnly config members before config') := by
  rw [loadFile_of_holdsMembers hfile, ← fits_merge_iff]
  constructor
  · intro hfits
    obtain ⟨config', hoverlay, htakes⟩ := exists_takes_of_fits config hfits
    have hsets : SetsOnly config members ((merge members).map Prod.fst) config' :=
      setsOnly_of_takes (List.append_nil _).symm htakes
    refine ⟨config', hoverlay, Json.names_merge members ▸ hsets, ?_, ?_⟩
    · intro tree' path' members' hfile' hsame
      have hlayer : fileLayer (merge members') = fileLayer (merge members) := by
        simp only [fileLayer_merge, hsame]
      rw [loadFile_of_holdsMembers hfile', overlay_eq_iff (nodup_names_merge members'), hlayer]
      exact htakes
    · rw [loadFile_of_holdsMembers hfile, overlay_eq_iff (nodup_names_merge members)]
      exact htakes.again
  · rintro ⟨field, value, reason, hlast, hreason⟩
    refine exists_setsOnly_of_misfit config fun hfits => ?_
    obtain ⟨content, hcontent⟩ := fits_merge_iff.mp hfits field value hlast
    rw [hreason] at hcontent
    cases hcontent

/-- Two files that name the model twice; one of them has a value between that is no
number. -/
def modelTree : Tree where
  entries :=
    [(["w"], .directory),
      (["w", "fits.json"],
        .file (asciiOctets "\x7b\"model\": \"a\", \"model\": \"b\"\x7d")),
      (["w", "ends.json"],
        .file (asciiOctets
          "\x7b\"model\": \"a\", \"max_concurrent\": \"x\", \"model\": \"b\"\x7d"))]
  workingDirectory := ["w"]

/-- The members of an object whose values are all texts. -/
def textFields? : List (Text × Json) → Option (List (Text × Text))
  | [] => some []
  | (name, .text value) :: rest => (textFields? rest).map ((name, value) :: ·)
  | _ :: _ => none

theorem eq_map_of_textFields? {entries : List (Text × Json)} {fields : List (Text × Text)}
    (h : textFields? entries = some fields) :
    entries = fields.map fun field => (field.1, .text field.2) := by
  fun_induction textFields? entries generalizing fields with
  | case1 =>
    cases h
    rfl
  | case2 name value rest ih =>
    obtain ⟨others, hothers, rfl⟩ := Option.map_eq_some_iff.mp h
    rw [List.map_cons, ← ih hothers]
  | case3 => cases h

/-- The texts that the file at a path holds under names. -/
def heldTexts? (tree : Tree) (path : Text) : Option (List (Text × Text)) :=
  match tree.readText (Path.ofText path).text with
  | .error _ => none
  | .ok text =>
    match Json.read text with
    | .ok (.object entries) => textFields? entries
    | _ => none

theorem holdsMembers_of_heldTexts? {fields : List (Text × Text)}
    (h : heldTexts? tree path = some fields) : ∃ members, HoldsMembers tree path members ∧
      merge members = fields.map fun field => (field.1, .text field.2) := by
  rw [heldTexts?] at h
  split at h
  · cases h
  next text htext =>
  split at h
  · next entries hobject =>
    obtain ⟨members, hlists, hmerge⟩ := Json.read_object_iff.mp hobject
    exact ⟨members, ⟨text, htext, hlists⟩, hmerge.symm.trans (eq_map_of_textFields? h)⟩
  · cases h

/-- In the first file everything fits, and in the second one the model is set although its
last value comes behind the value that does not fit. -/
theorem modelTree_sets_model :
    (∃ members config', HoldsMembers modelTree "fits.json" members ∧
      loadFile {} modelTree "fits.json" = (config', none) ∧ config'.model = "b") ∧
    ∃ members config' problem, HoldsMembers modelTree "ends.json" members ∧
      loadFile {} modelTree "ends.json" = (config', some problem) ∧ config'.model = "b" := by
  constructor
  · have hheld : heldTexts? modelTree "fits.json" = some [(("model" : Text), ("b" : Text))] := by
      decide +kernel
    obtain ⟨members, hfile, hmerge⟩ := holdsMembers_of_heldTexts? hheld
    rw [List.map_singleton] at hmerge
    have hlast : last? members (Field.name .model) = some (.text "b") := by
      rw [← Json.lookup_merge, hmerge]
      rfl
    have hfits : Fits (merge members) := by
      rw [hmerge]
      show Fits [(Field.name .model, .text "b")]
      exact fits_cons_field.mpr ⟨⟨("b" : Text), rfl⟩, fits_nil⟩
    obtain ⟨config', hload, hsets, -, -⟩ :=
      (loadFile_sets_fields {} modelTree "fits.json" members hfile).1 (fits_merge_iff.mp hfits)
    refine ⟨members, config', hfile, hload, ?_⟩
    have hname : Field.name .model ∈ firstNames members := by
      rw [← Json.names_merge, hmerge]
      exact List.mem_cons_self
    obtain ⟨value, hvalue, hcoerce⟩ := hsets.named .model hname
    cases hlast.symm.trans hvalue
    exact (Except.ok.inj hcoerce).symm
  · have hheld : heldTexts? modelTree "ends.json" =
        some [(("model" : Text), ("b" : Text)), ("max_concurrent", "x")] := by
      decide +kernel
    obtain ⟨members, hfile, hmerge⟩ := holdsMembers_of_heldTexts? hheld
    rw [List.map_cons, List.map_singleton] at hmerge
    have hlast (name : Text) : last? members name =
        List.lookup name [(("model" : Text), Json.text "b"), ("max_concurrent", Json.text "x")] := by
      rw [← Json.lookup_merge, hmerge]
    obtain ⟨before, after, field, config', problem, hnames, ⟨value, reason, hvalue, hreason⟩,
        hload, hsets⟩ :=
      (loadFile_sets_fields {} modelTree "ends.json" members hfile).2
        ⟨.maxConcurrent, .text "x", .wrongType, by rw [hlast]; rfl, by decide +kernel⟩
    refine ⟨members, config', problem, hfile, hload, ?_⟩
    rw [← Json.names_merge, hmerge] at hnames
    cases before with
    | nil =>
      -- The model comes first, and its last value fits.
      obtain ⟨hname, -⟩ := List.cons.inj hnames
      obtain rfl : field = .model := Field.name_injective hname.symm
      rw [hlast] at hvalue
      cases hvalue
      cases hreason
    | cons first before =>
      obtain ⟨rfl, -⟩ := List.cons.inj hnames
      obtain ⟨value, hvalue, hcoerce⟩ := hsets.named .model List.mem_cons_self
      rw [hlast] at hvalue
      cases hvalue
      exact (Except.ok.inj hcoerce).symm

end Config

end ProseCompiler
