import ProseCompiler.Proofs.Config.Layers

/-!
# The first source decides

A field of the configuration has four sources: an option of the command line, the
configuration file, a variable of the environment, and its default.  The first of them
that has something for the field decides it, whatever the sources have for other
fields.

`Decided` says what decides a field.  `configuration_eq_ok_iff` takes a configuration
apart into its layers, and `first_source_decides` reads off what decides each field,
and that nothing else matters.
-/

namespace ProseCompiler

/-! ## Sources -/

/-- The object in the configuration file of a command line; without a file it is
empty. -/
def Invocation.fileEntries (invocation : Invocation) (tree : Tree) :
    Except Problem (List (Text × Json)) :=
  match Invocation.given? invocation.configFile with
  | none => .ok []
  | some path => Config.readFile tree path

/-- What decides the content of a field: an option, else the value in the file, else
the variable unless it is empty, else the default. -/
inductive Decided (invocation : Invocation) (entries : List (Text × Json))
    (environment : Environment) (field : Field) : field.Content → Prop
  | option {content} (hoption : invocation.option? field = some content) :
      Decided invocation entries environment field content
  | file {value content} (hoption : invocation.option? field = none)
      (hentry : entries.lookup field.name = some value)
      (hfits : field.coerce value = .ok content) :
      Decided invocation entries environment field content
  | variable {name text content} (hoption : invocation.option? field = none)
      (hentry : entries.lookup field.name = none)
      (hname : (name, field) ∈ Environment.fieldVariables)
      (hvalue : environment.value? name = some text)
      (hreads : field.ofVariable text = some content) :
      Decided invocation entries environment field content
  | default (hoption : invocation.option? field = none)
      (hentry : entries.lookup field.name = none)
      (hvariables : ∀ name, (name, field) ∈ Environment.fieldVariables →
        environment.value? name = none) :
      Decided invocation entries environment field (({} : Config).get field)

/-- The names in a configuration file are different. -/
theorem readFile_nodup {tree : Tree} {path : Text} {entries : List (Text × Json)}
    (h : Config.readFile tree path = .ok entries) : (entries.map Prod.fst).Nodup := by
  unfold Config.readFile at h
  simp only at h
  split at h
  · cases h
  · cases h
  · split at h
    · cases h
    · split at h
      · cases h
      · cases h
      · cases h
      · next hread =>
        cases h
        exact Json.nodup_of_read hread
      · cases h

theorem fileEntries_nodup {invocation : Invocation} {tree : Tree}
    {entries : List (Text × Json)} (h : invocation.fileEntries tree = .ok entries) :
    (entries.map Prod.fst).Nodup := by
  unfold Invocation.fileEntries at h
  split at h
  · cases h
    exact List.nodup_nil
  · exact readFile_nodup h

/-- The variable of a field is the one that is listed with it. -/
theorem variableFor?_eq_some_iff {listed : List (Text × Field)} {name : Text} {field : Field}
    (hlisted : (listed.map Prod.snd).Nodup) :
    variableFor? listed field = some name ↔ (name, field) ∈ listed := by
  induction listed with
  | nil => simp [variableFor?]
  | cons entry rest ih =>
    obtain ⟨other, owner⟩ := entry
    rw [List.map_cons, List.nodup_cons] at hlisted
    obtain ⟨hnew, hrest⟩ := hlisted
    by_cases h : owner = field
    · subst h
      have hgone : (name, owner) ∉ rest := fun hmem => hnew (List.mem_map.mpr ⟨_, hmem, rfl⟩)
      simp [variableFor?, hgone, eq_comm]
    · have hskip : variableFor? ((other, owner) :: rest) field = variableFor? rest field := by
        simp [variableFor?, h]
      rw [hskip, ih hrest, List.mem_cons, Prod.mk.injEq]
      simp [Ne.symm h]

/-! ## The layers of a configuration -/

theorem load_eq_ok_iff {environment : Environment} {tree : Tree} {named : Option Text}
    {program : Location} {config : Config} :
    Config.load environment tree named program = .ok config ↔
      ∃ consulted,
        environment.withFile tree (Environment.fileOf? tree program named) = .ok consulted ∧
          ({} : Config).Takes (variableLayer consulted Environment.fieldVariables) config := by
  unfold Config.load
  cases environment.withFile tree (Environment.fileOf? tree program named) with
  | error fault => simp
  | ok consulted =>
    simp only [Except.ok.injEq, exists_eq_left']
    rw [← apply_eq_ok_iff fieldVariables_nodup]
    cases consulted.apply {} Environment.fieldVariables <;> simp

/-- A configuration is the defaults with the environment, the file and the options laid
over them. -/
theorem configuration_eq_ok_iff {invocation : Invocation} {environment : Environment}
    {tree : Tree} {program : Location} {config : Config} :
    invocation.configuration environment tree program = .ok config ↔
      ∃ consulted entries base overlaid,
        environment.withFile tree (Environment.fileOf? tree program invocation.envFile) =
            .ok consulted ∧
          invocation.fileEntries tree = .ok entries ∧
          ({} : Config).Takes (variableLayer consulted Environment.fieldVariables) base ∧
          base.Takes (fileLayer entries) overlaid ∧ invocation.withOptions overlaid = config := by
  unfold Invocation.configuration
  constructor
  · intro h
    cases hload : Config.load environment tree invocation.envFile program with
    | error problem =>
      rw [hload] at h
      cases h
    | ok base =>
      obtain ⟨consulted, hconsulted, hbase⟩ := load_eq_ok_iff.mp hload
      simp only [hload] at h
      cases hgiven : Invocation.given? invocation.configFile with
      | none =>
        simp only [hgiven] at h
        have hentries : invocation.fileEntries tree = .ok [] := by
          simp [Invocation.fileEntries, hgiven]
        exact ⟨consulted, [], base, base, hconsulted, hentries, hbase,
          Config.Takes.nothing_iff.mpr rfl, Except.ok.inj h⟩
      | some path =>
        have hsame : invocation.fileEntries tree = Config.readFile tree path := by
          simp [Invocation.fileEntries, hgiven]
        cases hread : Config.readFile tree path with
        | error problem =>
          simp only [hgiven, Config.loadFile, hread] at h
          cases h
        | ok entries =>
          simp only [hgiven, Config.loadFile, hread] at h
          rcases hoverlay : base.overlay entries with ⟨overlaid, _ | problem⟩
          · simp only [hoverlay] at h
            exact ⟨consulted, entries, base, overlaid, hconsulted, hsame.trans hread, hbase,
              (overlay_eq_iff (readFile_nodup hread)).mp hoverlay, Except.ok.inj h⟩
          · simp only [hoverlay] at h
            cases h
  · rintro ⟨consulted, entries, base, overlaid, hconsulted, hentries, hbase, hoverlaid, rfl⟩
    rw [load_eq_ok_iff.mpr ⟨consulted, hconsulted, hbase⟩]
    have hoverlay := (overlay_eq_iff (fileEntries_nodup hentries)).mpr hoverlaid
    unfold Invocation.fileEntries at hentries
    cases hgiven : Invocation.given? invocation.configFile with
    | none =>
      simp only [hgiven] at hentries ⊢
      cases hentries
      cases hoverlay
      rfl
    | some path =>
      simp only [hgiven] at hentries ⊢
      simp only [Config.loadFile, hentries, hoverlay]

/-- What decides a field can be read off the layers. -/
theorem decided_of_takes {invocation : Invocation} {entries : List (Text × Json)}
    {consulted : Environment} {base overlaid : Config}
    (hbase : ({} : Config).Takes (variableLayer consulted Environment.fieldVariables) base)
    (hoverlaid : base.Takes (fileLayer entries) overlaid) (field : Field) :
    Decided invocation entries consulted field ((invocation.withOptions overlaid).get field) := by
  rw [withOptions_get]
  cases hoption : invocation.option? field with
  | some content => exact .option hoption
  | none =>
    rw [Option.getD_none]
    have hfile := hoverlaid field
    unfold fileLayer at hfile
    cases hentry : entries.lookup field.name with
    | some value =>
      rw [hentry] at hfile
      cases hfits : field.coerce value with
      | error reason =>
        rw [Option.map_some, hfits] at hfile
        cases hfile
      | ok content =>
        rw [Option.map_some, hfits] at hfile
        cases hfile
        exact .file hoption hentry hfits
    | none =>
      rw [hentry] at hfile
      have hvariable := hbase field
      unfold variableLayer at hvariable
      have hsame : overlaid.get field = base.get field := hfile
      rw [hsame]
      have hlisted := @variableFor?_eq_some_iff Environment.fieldVariables
      cases hvalue :
          (variableFor? Environment.fieldVariables field).bind consulted.value? with
      | none =>
        rw [hvalue] at hvariable
        have hdefault : base.get field = ({} : Config).get field := hvariable
        rw [hdefault]
        refine .default hoption hentry fun name hname => ?_
        rwa [(hlisted fieldVariables_nodup).mpr hname] at hvalue
      | some text =>
        obtain ⟨name, hname, htext⟩ := Option.bind_eq_some_iff.mp hvalue
        rw [hvalue] at hvariable
        exact .variable hoption hentry ((hlisted fieldVariables_nodup).mp hname) htext hvariable

/-- Fields without an option and without a variable have only the file and the default. -/
theorem Decided.of_unlisted {invocation : Invocation} {entries : List (Text × Json)}
    {environment : Environment} {field : Field} {content : field.Content}
    (hfield : field ∈ [Field.referer, .appTitle, .documentExtension, .initialScan])
    (h : Decided invocation entries environment field content) :
    (∃ value, entries.lookup field.name = some value ∧ field.coerce value = .ok content) ∨
      entries.lookup field.name = none ∧ content = ({} : Config).get field := by
  have hoptionless : invocation.option? field = none := by
    simp only [List.mem_cons, List.not_mem_nil, or_false] at hfield
    rcases hfield with rfl | rfl | rfl | rfl <;> rfl
  cases h with
  | option hoption =>
    rw [hoptionless] at hoption
    cases hoption
  | file _ hentry hfits => exact .inl ⟨_, hentry, hfits⟩
  | «variable» _ _ hname =>
    have hlisted : ∀ entry ∈ Environment.fieldVariables,
        entry.2 ∉ [Field.referer, .appTitle, .documentExtension, .initialScan] := by decide
    exact absurd hfield (hlisted _ hname)
  | default _ hentry => exact .inr ⟨hentry, rfl⟩

/-! ## The result -/

/-- Every field of a configuration is decided by the first source that has something
for it.  The variables are those of the environment, and those of the environment file
that the environment does not have; the file is the one that is named, or else the nearest
one from the place of the program upwards.  Two command lines whose options, configuration
files and variables agree on all fields come to one configuration: what else the file
and the environment hold changes nothing. -/
theorem first_source_decides {invocation : Invocation} {environment : Environment} {tree : Tree}
    {program : Location} {config : Config}
    (h : invocation.configuration environment tree program = .ok config) :
    ∃ file consulted entries,
      Environment.Chooses tree program invocation.envFile file ∧
      environment.withFile tree file = .ok consulted ∧
      (∀ name, consulted.lookup name = (environment.lookup name).or
        ((environment.fileValues tree file).lookup name).join) ∧
      invocation.fileEntries tree = .ok entries ∧
      (∀ field, Decided invocation entries consulted field (config.get field)) ∧
      (∀ field ∈ [Field.referer, .appTitle, .documentExtension, .initialScan],
        (∃ value, entries.lookup field.name = some value ∧
            field.coerce value = .ok (config.get field)) ∨
          entries.lookup field.name = none ∧ config.get field = ({} : Config).get field) ∧
      ∀ (invocation' : Invocation) (environment' : Environment) (tree' : Tree)
          (program' : Location) (consulted' : Environment) (entries' : List (Text × Json)),
        environment'.withFile tree' (Environment.fileOf? tree' program' invocation'.envFile) =
          .ok consulted' →
        invocation'.fileEntries tree' = .ok entries' →
        (∀ field, invocation'.option? field = invocation.option? field) →
        (∀ field : Field, entries'.lookup field.name = entries.lookup field.name) →
        (∀ entry ∈ Environment.fieldVariables,
          consulted'.value? entry.1 = consulted.value? entry.1) →
        invocation'.configuration environment' tree' program' = .ok config := by
  obtain ⟨consulted, entries, base, overlaid, hconsulted, hentries, hbase, hoverlaid, rfl⟩ :=
    configuration_eq_ok_iff.mp h
  have hdecided : ∀ field, Decided invocation entries consulted field
      ((invocation.withOptions overlaid).get field) := decided_of_takes hbase hoverlaid
  refine ⟨_, consulted, entries, chooses_fileOf? tree program invocation.envFile, hconsulted,
    lookup_withFile hconsulted, hentries, hdecided,
    fun field hfield => (hdecided field).of_unlisted hfield, ?_⟩
  intro invocation' environment' tree' program' consulted' entries' hconsulted' hentries' hoptions
    hlookups hvalues
  have hvariables : variableLayer consulted' Environment.fieldVariables =
      variableLayer consulted Environment.fieldVariables := by
    funext field
    unfold variableLayer
    cases hname : variableFor? Environment.fieldVariables field with
    | none => rfl
    | some name =>
      have hmem := (variableFor?_eq_some_iff fieldVariables_nodup).mp hname
      rw [Option.bind_some, Option.bind_some, hvalues _ hmem]
  have hfile : fileLayer entries' = fileLayer entries := by
    funext field
    rw [fileLayer, fileLayer, hlookups]
  have hsame : invocation'.withOptions overlaid = invocation.withOptions overlaid := by
    refine Config.ext_get fun field => ?_
    rw [withOptions_get, withOptions_get, hoptions]
  rw [← hvariables] at hbase
  rw [← hfile] at hoverlaid
  exact configuration_eq_ok_iff.mpr
    ⟨consulted', entries', base, overlaid, hconsulted', hentries', hbase, hoverlaid, hsame⟩

/-! ## All sources at once -/

/-- A command line with an option for the model and a configuration file. -/
def layeredInvocation : Invocation where
  verbose := false
  model := some "option/model"
  configFile := some "/w/config.json"
  envFile := none
  logFile := some []
  jsonLogs := true
  command := none

def layeredEnvironment : Environment :=
  [("HOME", "/root"), ("AI_MODEL", "environment/model"), ("GPT_COMPILER_MAX_CONCURRENT", "7"),
    ("GPT_COMPILER_LOG_LEVEL", "")]

/-- The octets of a text in ASCII. -/
def asciiOctets (t : Text) : Bytes := t.map fun c => UInt8.ofNat c.val

/-- The place of the program, which is below the directory with the environment file. -/
def layeredProgram : Location := ["w", "lib", "app"]

/-- The environment file sets a variable that is there already, and one that is not. -/
def layeredTree : Tree where
  entries :=
    [(["w"], .directory),
      (["w", ".env"], .file (asciiOctets "AI_MODEL=file/model\nOPENROUTER_API_KEY=key\n")),
      (["w", "config.json"], .file (asciiOctets
        "\x7b\"max_concurrent\": 2, \"theme\": null, \"referer\": \"r\"\x7d"))]
  workingDirectory := []

def layeredConfig : Config :=
  { apiKey := some "key", model := "option/model", referer := "r", maxConcurrent := 2,
    jsonLogs := true }

/-- The model is decided by its option, the referer and the bound by the file, the key by
a variable of the environment file, which is found above the program, and the rest by its
default: the variable for the model comes too late, and the empty one does not count. -/
theorem each_source_decides_a_field :
    layeredInvocation.configuration layeredEnvironment layeredTree layeredProgram =
        .ok layeredConfig ∧
      ∃ file consulted entries,
        Environment.Chooses layeredTree layeredProgram none file ∧
          layeredEnvironment.withFile layeredTree file = .ok consulted ∧
          layeredInvocation.fileEntries layeredTree = .ok entries ∧
          ∀ field, Decided layeredInvocation entries consulted field (layeredConfig.get field) := by
  have hconfig : layeredInvocation.configuration layeredEnvironment layeredTree layeredProgram =
      .ok layeredConfig := by
    have hsome : (layeredInvocation.configuration layeredEnvironment layeredTree
        layeredProgram).toOption = some layeredConfig := by decide +kernel
    cases hresult : layeredInvocation.configuration layeredEnvironment layeredTree
        layeredProgram with
    | error problem =>
      rw [hresult] at hsome
      cases hsome
    | ok config =>
      rw [hresult] at hsome
      exact congrArg Except.ok (Option.some.inj hsome)
  obtain ⟨file, consulted, entries, hfile, hconsulted, -, hentries, hdecided, -⟩ :=
    first_source_decides hconfig
  exact ⟨hconfig, file, consulted, entries, hfile, hconsulted, hentries, hdecided⟩

end ProseCompiler
