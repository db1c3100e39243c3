import ProseCompiler.Proofs.Config.Precedence
import ProseCompiler.Proofs.Files.Lookup
import ProseCompiler.Proofs.Json.Limits

/-!
# What loading a configuration file comes to

A configuration file is meant to be laid over the configuration, or to be refused with an
error of the configuration that names what is wrong: the field whose value does not fit, or
the file itself.  `Meant` says which files come to which.

Some files come to something else (`Strays`): a path that the system does not look up for
its length, a directory, octets that are no text, a text that the JSON reader gives up for
its size and not for its form, and two kinds of numbers that do not fit, an infinite one for
the bound on compilations and an integer beyond all finite numbers for the timeout.
`meant_or_strays` says that there is nothing further, and `load_is_meant_iff` that what
strays is passed on as it is.
-/

namespace ProseCompiler

/-- The number is an infinity. -/
def Binary64.IsInfinite (x : Binary64) : Prop := ∃ negative, x.view = .infinite negative

/-! ## Reading files -/

namespace Tree

variable {t : Tree} {path text : Text} {fault : Fault}

theorem entryExists_of_readText (h : t.readText path = .ok text) :
    t.entryExists path = .ok true := by
  unfold readText readFile at h
  unfold entryExists test
  cases hstatus : t.status true path with
  | error fault =>
    rw [hstatus] at h
    cases h
  | ok found => rfl

/-- What is there and cannot be read is no file, or no text. -/
theorem readText_error_of_exists (hexists : t.entryExists path = .ok true)
    (h : t.readText path = .error fault) :
    fault = .system .isDirectory path ∨ ∃ culprit, fault = .undecodable culprit := by
  unfold readText readFile at h
  cases hstatus : t.status true path with
  | error refusal =>
    unfold entryExists test at hexists
    rw [hstatus] at hexists
    simp only at hexists
    split at hexists <;> cases hexists
  | ok found =>
    obtain ⟨place, node⟩ := found
    rw [hstatus] at h
    cases node with
    | file content =>
      simp only at h
      split at h
      · next culprit _ =>
        cases h
        exact .inr ⟨culprit, rfl⟩
      · cases h
    | directory | link =>
      cases h
      exact .inl rfl

end Tree

namespace Config

/-! ## Values -/

/-- Whether every value of an object fits the field that it is named for. -/
def Fits (entries : List (Text × Json)) : Prop :=
  ∀ (field : Field) (value : Json), (field.name, value) ∈ entries →
    ∃ content, field.coerce value = .ok content

variable {entries before after : List (Text × Json)} {field : Field}
  {name : Text} {value : Json} {reason : Field.Misfit}

theorem fits_nil : Fits [] := fun _ _ hmem => absurd hmem List.not_mem_nil

theorem fits_cons_of_unnamed (hname : Field.named? name = none) :
    Fits ((name, value) :: entries) ↔ Fits entries := by
  refine ⟨fun h field value hmem => h field value (List.mem_cons_of_mem _ hmem), ?_⟩
  intro h field other hmem
  rcases List.mem_cons.mp hmem with heq | hmem
  · cases heq
    rw [field.named?_name] at hname
    cases hname
  · exact h field other hmem

theorem fits_cons_field :
    Fits ((field.name, value) :: entries) ↔
      (∃ content, field.coerce value = .ok content) ∧ Fits entries := by
  constructor
  · exact fun h => ⟨h field value List.mem_cons_self,
      fun other value hmem => h other value (List.mem_cons_of_mem _ hmem)⟩
  · rintro ⟨hvalue, hrest⟩ other value' hmem
    rcases List.mem_cons.mp hmem with heq | hmem
    · obtain ⟨hname, rfl⟩ := Prod.mk.inj heq
      cases Field.name_injective hname
      exact hvalue
    · exact hrest other value' hmem

/-- An overlay of values that fit goes through, and goes on with the values behind them. -/
theorem overlay_append (config : Config) (hbefore : Fits before) :
    ∃ config', config.overlay before = (config', none) ∧
      ∀ after, config.overlay (before ++ after) = config'.overlay after := by
  induction before generalizing config with
  | nil => exact ⟨config, rfl, fun _ => rfl⟩
  | cons entry rest ih =>
    obtain ⟨name, value⟩ := entry
    cases hname : Field.named? name with
    | none =>
      obtain ⟨config', hrest, hafter⟩ := ih config ((fits_cons_of_unnamed hname).mp hbefore)
      refine ⟨config', ?_, fun after => ?_⟩
      · rw [overlay, hname]
        exact hrest
      · rw [List.cons_append, overlay, hname]
        exact hafter after
    | some field =>
      obtain rfl : field.name = name := Field.named?_eq_some_iff.mp hname
      obtain ⟨⟨content, hcontent⟩, hfits⟩ := fits_cons_field.mp hbefore
      obtain ⟨config', hrest, hafter⟩ := ih (config.set field content) hfits
      refine ⟨config', ?_, fun after => ?_⟩
      · rw [overlay, hname]
        simp only [hcontent]
        exact hrest
      · rw [List.cons_append, overlay, hname]
        simp only [hcontent]
        exact hafter after

/-- The values of an object fit, or there is a first one that does not. -/
theorem fits_or_misfit (entries : List (Text × Json)) :
    Fits entries ∨ ∃ before after, ∃ field : Field, ∃ value reason,
      entries = before ++ (field.name, value) :: after ∧ Fits before ∧
        field.coerce value = .error reason := by
  induction entries with
  | nil => exact .inl fits_nil
  | cons entry rest ih =>
    obtain ⟨name, value⟩ := entry
    cases hname : Field.named? name with
    | none =>
      rw [fits_cons_of_unnamed hname]
      refine ih.imp_right ?_
      rintro ⟨before, after, field, other, reason, rfl, hbefore, hreason⟩
      exact ⟨(name, value) :: before, after, field, other, reason, rfl,
        (fits_cons_of_unnamed hname).mpr hbefore, hreason⟩
    | some field =>
      obtain rfl : field.name = name := Field.named?_eq_some_iff.mp hname
      cases hvalue : field.coerce value with
      | error reason =>
        exact .inr ⟨[], rest, field, value, reason, rfl, fits_nil, hvalue⟩
      | ok content =>
        rw [fits_cons_field]
        refine ih.imp (fun hrest => ⟨⟨content, hvalue⟩, hrest⟩) ?_
        rintro ⟨before, after, other, value', reason, rfl, hbefore, hreason⟩
        exact ⟨(field.name, value) :: before, after, other, value', reason, rfl,
          fits_cons_field.mpr ⟨⟨content, hvalue⟩, hbefore⟩, hreason⟩

/-- The first value that does not fit ends the overlay. -/
theorem overlay_misfit (config : Config) (hbefore : Fits before)
    (hreason : field.coerce value = .error reason) (after : List (Text × Json)) :
    ∃ config', config.overlay before = (config', none) ∧
      config.overlay (before ++ (field.name, value) :: after) =
        (config', some (misfit field value reason)) := by
  obtain ⟨config', hconfig', hafter⟩ := overlay_append config hbefore
  refine ⟨config', hconfig', ?_⟩
  rw [hafter, overlay, field.named?_name]
  simp only [hreason]

/-- Two kinds of numbers do not fit for another reason than their type. -/
theorem coerce_overflow {message : Text} (h : field.coerce value = .error (.overflow message)) :
    (∃ x, field = .maxConcurrent ∧ value = .real x ∧ x.IsInfinite ∧
        message = "cannot convert float infinity to integer") ∨
      ∃ i, field = .requestTimeout ∧ value = .integer i ∧ Binary64.ofInt? i = none ∧
        message = "int too large to convert to float" := by
  cases field with
  | maxConcurrent =>
    cases value with
    | real x =>
      simp only [Field.coerce, Field.toInteger, Binary64.truncate?, Binary64.isNan] at h
      cases hview : x.view with
      | infinite negative =>
        simp [hview] at h
        exact .inl ⟨x, rfl, rfl, ⟨negative, hview⟩, h.symm⟩
      | nan => simp [hview] at h
      | finite => simp [hview] at h
    | text t =>
      simp only [Field.coerce, Field.toInteger] at h
      split at h <;> cases h
    | integer | null | bool | array | object => cases h
  | requestTimeout =>
    cases value with
    | integer i =>
      simp only [Field.coerce, Field.toReal] at h
      cases hreal : Binary64.ofInt? i with
      | some x =>
        rw [hreal] at h
        cases h
      | none =>
        rw [hreal] at h
        cases h
        exact .inr ⟨i, rfl, rfl, hreal, rfl⟩
    | text t =>
      simp only [Field.coerce, Field.toReal] at h
      split at h <;> cases h
    | real | null | bool | array | object => cases h
  | initialScan | verbose | jsonLogs => cases value <;> cases h
  | apiKey | logFile => cases value <;> cases h
  | model | apiUrl | referer | appTitle | defaultLanguage | documentExtension | logLevel =>
    cases value <;> cases h

theorem coerce_infinite {x : Binary64} (h : x.IsInfinite) :
    Field.coerce .maxConcurrent (.real x) =
      .error (.overflow "cannot convert float infinity to integer") := by
  obtain ⟨negative, hview⟩ := h
  simp [Field.coerce, Field.toInteger, Binary64.truncate?, Binary64.isNan, hview]

theorem coerce_huge {i : Int} (h : Binary64.ofInt? i = none) :
    Field.coerce .requestTimeout (.integer i) =
      .error (.overflow "int too large to convert to float") := by
  simp [Field.coerce, Field.toReal, h, Except.map]

/-! ## Files -/

/-- The object in the file at a path. -/
def Holds (tree : Tree) (path : Text) (entries : List (Text × Json)) : Prop :=
  ∃ text, tree.readText (Path.ofText path).text = .ok text ∧
    Json.read text = .ok (.object entries)

/-- An error of the configuration whose details name a setting. -/
def Names (error : CompilerError) (setting : Text) : Prop :=
  error.kind = "ConfigError" ∧ error.details = [(("setting" : Text), Json.text setting)]

/-- What loading a file is meant to come to: its values are laid over the configuration, or
an error names the first field that one does not fit, or says that the file is none with
values. -/
inductive Meant (config : Config) (tree : Tree) (path : Text) : Config × Option Problem → Prop
  | loaded {entries : List (Text × Json)} {config' : Config} (hfile : Holds tree path entries)
      (htakes : config.Takes (fileLayer entries) config') : Meant config tree path (config', none)
  | misfit {before after : List (Text × Json)} {field : Field} {value : Json} {config' : Config}
      {error : CompilerError} (hfile : Holds tree path (before ++ (field.name, value) :: after))
      (hbefore : config.Takes (fileLayer before) config')
      (hvalue : ∀ content, field.coerce value ≠ .ok content) (herror : Names error field.name) :
      Meant config tree path (config', some (.reported error))
  | refused {error : CompilerError} (hfile : ∀ entries, ¬Holds tree path entries)
      (herror : Names error "config") :
      Meant config tree path (config, some (.reported error))

/-- Only errors of the configuration are meant to come out. -/
theorem Meant.reported {config : Config} {tree : Tree} {path : Text}
    {result : Config × Option Problem} {problem : Problem} (h : Meant config tree path result)
    (hproblem : result.2 = some problem) :
    ∃ error, problem = .reported error ∧ error.kind = "ConfigError" := by
  cases h with
  | loaded => cases hproblem
  | misfit _ _ _ herror | refused _ herror =>
    cases hproblem
    exact ⟨_, rfl, herror.1⟩

/-- What loading a file comes to instead. -/
inductive Strays (tree : Tree) (path : Text) : Fault → Prop
  | tooLong (htest : tree.entryExists (Path.ofText path).text =
        .error (.system .nameTooLong (Path.ofText path).text)) :
      Strays tree path (.system .nameTooLong (Path.ofText path).text)
  | noFile (hexists : tree.entryExists (Path.ofText path).text = .ok true)
      (hread : tree.readText (Path.ofText path).text =
        .error (.system .isDirectory (Path.ofText path).text)) :
      Strays tree path (.system .isDirectory (Path.ofText path).text)
  | noText {culprit : DecodeFault}
      (hexists : tree.entryExists (Path.ofText path).text = .ok true)
      (hread : tree.readText (Path.ofText path).text = .error (.undecodable culprit)) :
      Strays tree path (.undecodable culprit)
  | tooManyDigits {text : Text} {n : Nat}
      (htext : tree.readText (Path.ofText path).text = .ok text)
      (hread : Json.read text = .error (.tooManyDigits n)) :
      Strays tree path (.badValue (Json.digitsMessage n))
  | tooDeep {text message : Text} (htext : tree.readText (Path.ofText path).text = .ok text)
      (hread : Json.read text = .error (.tooDeep message)) : Strays tree path (.tooDeep message)
  | infiniteBound {before after : List (Text × Json)} {x : Binary64}
      (hfile : Holds tree path (before ++ (Field.name .maxConcurrent, .real x) :: after))
      (hbefore : Fits before) (hinfinite : x.IsInfinite) :
      Strays tree path (.overflow "cannot convert float infinity to integer")
  | hugeTimeout {before after : List (Text × Json)} {i : Int}
      (hfile : Holds tree path (before ++ (Field.name .requestTimeout, .integer i) :: after))
      (hbefore : Fits before) (hhuge : Binary64.ofInt? i = none) :
      Strays tree path (.overflow "int too large to convert to float")

variable {tree : Tree} {path : Text} {fault : Fault}

theorem readFile_eq_ok_iff : readFile tree path = .ok entries ↔ Holds tree path entries := by
  constructor
  · intro h
    unfold readFile at h
    simp only at h
    split at h
    · cases h
    · cases h
    · split at h
      · cases h
      · next text htext =>
        split at h <;> cases h
        next hread => exact ⟨text, htext, hread⟩
  · rintro ⟨text, htext, hread⟩
    simp only [readFile, Tree.entryExists_of_readText htext, htext, hread]

/-- What strays is passed on as it is. -/
theorem Strays.loadFile (h : Strays tree path fault) (config : Config) :
    (config.loadFile tree path).2 = some (.unexpected fault) := by
  have hunread {problem : Problem} (h : readFile tree path = .error problem) :
      (config.loadFile tree path).2 = some problem := by
    rw [Config.loadFile, h]
  have hmisfit {before after : List (Text × Json)} {field : Field} {value : Json}
      {reason : Field.Misfit} (hfile : Holds tree path (before ++ (field.name, value) :: after))
      (hbefore : Fits before) (hreason : field.coerce value = .error reason) :
      (config.loadFile tree path).2 = some (Config.misfit field value reason) := by
    obtain ⟨config', -, hoverlay⟩ := overlay_misfit config hbefore hreason after
    simp only [Config.loadFile, readFile_eq_ok_iff.mpr hfile, hoverlay]
  cases h with
  | tooLong htest => exact hunread (by simp only [readFile, htest])
  | noFile hexists hread | noText hexists hread =>
    exact hunread (by simp only [readFile, hexists, hread])
  | tooManyDigits htext hread | tooDeep htext hread =>
    exact hunread (by simp only [readFile, Tree.entryExists_of_readText htext, htext, hread])
  | infiniteBound hfile hbefore hinfinite => exact hmisfit hfile hbefore (coerce_infinite hinfinite)
  | hugeTimeout hfile hbefore hhuge => exact hmisfit hfile hbefore (coerce_huge hhuge)

/-- What strays is not what is meant. -/
theorem Strays.not_meant (h : Strays tree path fault) (config : Config) :
    ¬Meant config tree path (config.loadFile tree path) := by
  intro hmeant
  obtain ⟨error, herror, -⟩ := hmeant.reported (h.loadFile config)
  cases herror

/-- A file without an object is refused, or strays. -/
theorem meant_or_strays_of_unread (config : Config) {problem : Problem}
    (h : readFile tree path = .error problem) :
    Meant config tree path (config, some problem) ∨ ∃ fault, Strays tree path fault := by
  have hrefused (message : Text) :
      Meant config tree path (config, some (fileError message)) := by
    refine .refused (fun entries hholds => ?_) ⟨rfl, rfl⟩
    rw [readFile_eq_ok_iff.mpr hholds] at h
    cases h
  unfold readFile at h
  simp only at h
  split at h
  · next fault htest =>
    cases Tree.test_error htest
    exact .inr ⟨_, .tooLong htest⟩
  · cases h
    exact .inl (hrefused _)
  · next hexists =>
    split at h
    · next fault hread =>
      rcases Tree.readText_error_of_exists hexists hread with rfl | ⟨culprit, rfl⟩
      · exact .inr ⟨_, .noFile hexists hread⟩
      · exact .inr ⟨_, .noText hexists hread⟩
    · next text htext =>
      split at h
      · cases h
        exact .inl (hrefused _)
      · next hread => exact .inr ⟨_, .tooManyDigits htext hread⟩
      · next hread => exact .inr ⟨_, .tooDeep htext hread⟩
      · cases h
      · cases h
        exact .inl (hrefused _)

/-- Loading a file comes to what is meant, or the file strays. -/
theorem meant_or_strays (config : Config) (tree : Tree) (path : Text) :
    Meant config tree path (config.loadFile tree path) ∨ ∃ fault, Strays tree path fault := by
  cases hread : readFile tree path with
  | error problem =>
    rw [loadFile, hread]
    exact meant_or_strays_of_unread config hread
  | ok entries =>
    have hfile : Holds tree path entries := readFile_eq_ok_iff.mp hread
    have hnodup := readFile_nodup hread
    rw [loadFile, hread]
    rcases fits_or_misfit entries with hfits | ⟨before, after, field, value, reason, rfl, hbefore,
      hreason⟩
    · obtain ⟨config', hoverlay, -⟩ := overlay_append config hfits
      simp only [hoverlay]
      exact .inl (.loaded hfile ((overlay_eq_iff hnodup).mp hoverlay))
    · obtain ⟨config', hoverlay, hmisfit⟩ := overlay_misfit config hbefore hreason after
      rw [List.map_append] at hnodup
      cases reason with
      | wrongType =>
        simp only [hmisfit]
        refine .inl (.misfit hfile ((overlay_eq_iff (List.nodup_append.mp hnodup).1).mp hoverlay) ?_ ?_)
        · simp [hreason]
        · exact ⟨rfl, by cases field <;> rfl⟩
      | overflow message =>
        rcases coerce_overflow hreason with ⟨x, rfl, rfl, hinfinite, -⟩ | ⟨i, rfl, rfl, hhuge, -⟩
        · exact .inr ⟨_, .infiniteBound hfile hbefore hinfinite⟩
        · exact .inr ⟨_, .hugeTimeout hfile hbefore hhuge⟩

/-- Loading a file comes to what is meant if and only if the file does not stray: all its
values are laid over the configuration, or an error of the configuration names the first
field that one does not fit, or the file.  What strays is passed on as it is.  A text whose
form is right strays only for an integer of more than 4300 digits, for more than 970 arrays
and objects, or for one of the two kinds of numbers. -/
theorem load_is_meant_iff (config : Config) (tree : Tree) (path : Text) :
    (Meant config tree path (config.loadFile tree path) ↔ ∀ fault, ¬Strays tree path fault) ∧
      (∀ fault, Strays tree path fault →
        (config.loadFile tree path).2 = some (.unexpected fault)) ∧
      ∀ fault text, Strays tree path fault →
        tree.readText (Path.ofText path).text = .ok text →
        (∃ digits : Text, 4300 < digits.length ∧ (∀ c ∈ digits, c.isDigit = true) ∧
            digits <:+: text) ∨
          970 < Json.openings text ∨
          ∃ entries, Json.read text = .ok (.object entries) ∧ ¬Fits entries := by
  refine ⟨⟨fun hmeant fault hstrays => hstrays.not_meant config hmeant, fun hnone => ?_⟩,
    fun fault hstrays => hstrays.loadFile config, fun fault text hstrays htext => ?_⟩
  · exact (meant_or_strays config tree path).resolve_right fun ⟨fault, h⟩ => hnone fault h
  · have hunfit {field : Field} {before after : List (Text × Json)} {value : Json}
        {reason : Field.Misfit} (hfile : Holds tree path (before ++ (field.name, value) :: after))
        (hreason : field.coerce value = .error reason) :
        ∃ entries, Json.read text = .ok (.object entries) ∧ ¬Fits entries := by
      obtain ⟨same, hsame, hread⟩ := hfile
      cases htext.symm.trans hsame
      refine ⟨_, hread, fun hfits => ?_⟩
      obtain ⟨content, hcontent⟩ := hfits field value (by simp)
      rw [hreason] at hcontent
      cases hcontent
    cases hstrays with
    | tooLong htest =>
      rw [Tree.entryExists_of_readText htext] at htest
      cases htest
    | noFile _ hread | noText _ hread =>
      rw [htext] at hread
      cases hread
    | tooManyDigits hsame hread =>
      cases htext.symm.trans hsame
      obtain ⟨hlong, digits, rfl, hdigits, hinfix⟩ := Json.refuses_of_read hread
      exact .inl ⟨digits, hlong, hdigits, hinfix⟩
    | tooDeep hsame hread =>
      cases htext.symm.trans hsame
      exact .inr (.inl (Json.refuses_of_read hread))
    | infiniteBound hfile _ hinfinite => exact .inr (.inr (hunfit hfile (coerce_infinite hinfinite)))
    | hugeTimeout hfile _ hhuge => exact .inr (.inr (hunfit hfile (coerce_huge hhuge)))

/-! ## An infinite number of compilations -/

/-- A configuration file that asks for infinitely many compilations at a time. -/
def infiniteTree : Tree where
  entries :=
    [(["w"], .directory),
      (["w", "c.json"], .file (asciiOctets "\x7b\"max_concurrent\": Infinity\x7d"))]
  workingDirectory := ["w"]

theorem infiniteTree_overflows :
    (loadFile {} infiniteTree "c.json").2.map Problem.kind = some "OverflowError" := by
  decide +kernel

/-- Such a file is none of what is meant. -/
theorem infinite_bound_is_not_meant :
    ¬Meant {} infiniteTree "c.json" (loadFile {} infiniteTree "c.json") := by
  intro hmeant
  obtain ⟨problem, hproblem, hkind⟩ := Option.map_eq_some_iff.mp infiniteTree_overflows
  obtain ⟨error, rfl, herror⟩ := hmeant.reported hproblem
  exact absurd (herror.symm.trans hkind) (by decide)

/-- It strays, for its number. -/
theorem infinite_bound_strays :
    ∃ fault, Strays infiniteTree "c.json" fault ∧ fault.kind = "OverflowError" := by
  obtain ⟨problem, hproblem, hkind⟩ := Option.map_eq_some_iff.mp infiniteTree_overflows
  obtain ⟨hmeant, hpassed, -⟩ := load_is_meant_iff {} infiniteTree "c.json"
  have hstrays : ¬∀ fault, ¬Strays infiniteTree "c.json" fault := by
    intro hnone
    obtain ⟨error, rfl, herror⟩ := (hmeant.mpr hnone).reported hproblem
    exact absurd (herror.symm.trans hkind) (by decide)
  obtain ⟨fault, hfault⟩ := not_forall_not.mp hstrays
  obtain rfl : problem = .unexpected fault :=
    Option.some.inj (hproblem.symm.trans (hpassed fault hfault))
  exact ⟨fault, hfault, hkind⟩

end Config

end ProseCompiler
