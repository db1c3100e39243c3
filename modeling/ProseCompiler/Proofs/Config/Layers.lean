import ProseCompiler.CommandLine.Configuration
import ProseCompiler.Proofs.Json.Fields

/-!
# Layers of a configuration

The environment and the configuration file are laid over the defaults one after the
other, each by setting fields in the order in which it comes upon them.  What comes
of it does not depend on that order: a `Layer` says what a source has for each field,
and `Config.Takes` says that a configuration is another one with a layer over it.

`apply_eq_ok_iff` and `overlay_eq_iff` say that the environment and the file do just
that, and `withOptions_get` says it of the options.  `chooses_fileOf?` says which environment
file is read, and `lookup_withFile` which variables there are once it was.
-/

namespace ProseCompiler

/-! ## Fields -/

namespace Config

@[simp] theorem get_set (config : Config) (field : Field) (content : field.Content) :
    (config.set field content).get field = content := by
  cases field <;> rfl

theorem get_set_of_ne {field other : Field} (h : other ≠ field) (config : Config)
    (content : field.Content) : (config.set field content).get other = config.get other := by
  cases field <;> cases other <;> first | rfl | exact absurd rfl h

/-- A configuration is what its fields hold. -/
theorem ext_get {config config' : Config} (h : ∀ field, config.get field = config'.get field) :
    config = config' := by
  obtain ⟨⟩ := config
  obtain ⟨⟩ := config'
  rw [Config.mk.injEq]
  exact ⟨h .apiKey, h .model, h .apiUrl, h .referer, h .appTitle, h .requestTimeout,
    h .defaultLanguage, h .documentExtension, h .initialScan, h .maxConcurrent, h .verbose,
    h .logLevel, h .logFile, h .jsonLogs⟩

end Config

theorem Field.named?_name (field : Field) : Field.named? field.name = some field := by
  cases field <;> decide +kernel

theorem Field.named?_eq_some_iff {name : Text} {field : Field} :
    Field.named? name = some field ↔ field.name = name := by
  constructor
  · intro h
    exact beq_iff_eq.mp (List.find?_some (p := fun field : Field => field.name == name) h)
  · rintro rfl
    exact field.named?_name

theorem Field.name_injective : Function.Injective Field.name := by
  intro field other h
  have hagain := field.named?_name
  rw [h, other.named?_name] at hagain
  exact (Option.some.inj hagain).symm

/-- A key that a list of entries does not have is not found in it. -/
theorem lookup_eq_none_of_new {α : Type} {key : Text} {entries : List (Text × α)}
    (h : key ∉ entries.map Prod.fst) : entries.lookup key = none := by
  refine List.lookup_eq_none_iff.mpr fun entry hentry => ?_
  exact bne_iff_ne.mpr fun heq => h (List.mem_map.mpr ⟨entry, hentry, heq.symm⟩)

/-! ## Layers -/

/-- What a source has for each field: nothing, something that does not fit, or a
content. -/
abbrev Layer := (field : Field) → Option (Option field.Content)

/-- A configuration with a layer over it, all of which fits. -/
def Config.Takes (config : Config) (layer : Layer) (config' : Config) : Prop :=
  ∀ field, match layer field with
    | none => config'.get field = config.get field
    | some content => content = some (config'.get field)

namespace Config.Takes

variable {config config' : Config} {layer layer' : Layer}

theorem nothing_iff : config.Takes (fun _ => none) config' ↔ config' = config :=
  ⟨fun h => ext_get h, fun h field => by rw [h]⟩

/-- A field of which the rest of a layer knows nothing may be set first. -/
theorem set_iff {field : Field} {content : field.Content} (hfield : layer field = none)
    (hfield' : layer' field = some (some content))
    (hothers : ∀ other, other ≠ field → layer' other = layer other) :
    (config.set field content).Takes layer config' ↔ config.Takes layer' config' := by
  have hsame : ∀ other, (match layer other with
        | none => config'.get other = (config.set field content).get other
        | some content => content = some (config'.get other)) ↔
      match layer' other with
        | none => config'.get other = config.get other
        | some content => content = some (config'.get other) := by
    intro other
    by_cases h : other = field
    · subst h
      rw [hfield, hfield']
      simp only [get_set, Option.some.injEq]
      exact eq_comm
    · rw [hothers other h, get_set_of_ne h]
  exact forall_congr' hsame

/-- Nothing takes a layer that does not fit. -/
theorem not_of_misfit {field : Field} (hfield : layer field = some none) :
    ¬config.Takes layer config' := by
  intro h
  have hmisfit := h field
  rw [hfield] at hmisfit
  cases hmisfit

end Config.Takes

/-! ## The configuration file -/

/-- What the fields of an object have for each field of the configuration. -/
def fileLayer (entries : List (Text × Json)) : Layer := fun field =>
  (entries.lookup field.name).map fun value => (field.coerce value).toOption

section FileLayer

variable {field : Field} {name : Text} {value : Json} {entries : List (Text × Json)}

theorem fileLayer_cons_self :
    fileLayer ((field.name, value) :: entries) field = some (field.coerce value).toOption := by
  rw [fileLayer, List.lookup_cons_self]
  rfl

theorem fileLayer_cons_of_ne (h : field.name ≠ name) :
    fileLayer ((name, value) :: entries) field = fileLayer entries field := by
  rw [fileLayer, List.lookup_cons, beq_eq_false_iff_ne.mpr h]
  rfl

theorem fileLayer_eq_none (h : field.name ∉ entries.map Prod.fst) :
    fileLayer entries field = none := by
  rw [fileLayer, lookup_eq_none_of_new h]
  rfl

end FileLayer

/-- The overlay of an object goes through if its values fit, and sets the fields that
it names. -/
theorem overlay_eq_iff {config config' : Config} {entries : List (Text × Json)}
    (hentries : (entries.map Prod.fst).Nodup) :
    config.overlay entries = (config', none) ↔ config.Takes (fileLayer entries) config' := by
  induction entries generalizing config with
  | nil =>
    rw [Config.overlay, Prod.mk.injEq, and_iff_left rfl]
    exact eq_comm.trans Config.Takes.nothing_iff.symm
  | cons entry rest ih =>
    obtain ⟨name, value⟩ := entry
    rw [List.map_cons, List.nodup_cons] at hentries
    obtain ⟨hnew, hrest⟩ := hentries
    rw [Config.overlay]
    cases hnamed : Field.named? name with
    | none =>
      have hsame : fileLayer ((name, value) :: rest) = fileLayer rest := by
        funext other
        refine fileLayer_cons_of_ne fun hname => ?_
        rw [Field.named?_eq_some_iff.mpr hname] at hnamed
        cases hnamed
      rw [hsame]
      exact ih hrest
    | some field =>
      obtain rfl : field.name = name := Field.named?_eq_some_iff.mp hnamed
      have hfield := @fileLayer_cons_self field value rest
      simp only
      cases hcoerce : field.coerce value with
      | error reason =>
        rw [hcoerce] at hfield
        exact ⟨(fun h => by cases h), fun h => absurd h (Config.Takes.not_of_misfit hfield)⟩
      | ok content =>
        rw [hcoerce] at hfield
        have hothers : ∀ other, other ≠ field →
            fileLayer ((field.name, value) :: rest) other = fileLayer rest other :=
          fun other hother => fileLayer_cons_of_ne fun hname => hother (Field.name_injective hname)
        exact (ih hrest).trans (Config.Takes.set_iff (fileLayer_eq_none hnew) hfield hothers)

/-! ## The environment -/

/-- The variable that sets a field, among some that set fields. -/
def variableFor? (listed : List (Text × Field)) (field : Field) : Option Text :=
  (listed.find? fun entry => entry.2 = field).map Prod.fst

/-- What the variables of an environment have for each field. -/
def variableLayer (environment : Environment) (listed : List (Text × Field)) : Layer :=
  fun field => ((variableFor? listed field).bind environment.value?).map field.ofVariable

section VariableLayer

variable {environment : Environment} {field other : Field} {name : Text}
  {listed : List (Text × Field)}

theorem variableLayer_cons_self :
    variableLayer environment ((name, field) :: listed) field =
      (environment.value? name).map field.ofVariable := by
  simp [variableLayer, variableFor?]

theorem variableLayer_cons_of_ne (h : other ≠ field) :
    variableLayer environment ((name, field) :: listed) other =
      variableLayer environment listed other := by
  simp [variableLayer, variableFor?, h.symm]

theorem variableLayer_eq_none (h : field ∉ listed.map Prod.snd) :
    variableLayer environment listed field = none := by
  have hnone : listed.find? (fun entry => entry.2 = field) = none := by
    refine List.find?_eq_none.mpr fun entry hentry => ?_
    simpa using fun heq : entry.2 = field => h (List.mem_map.mpr ⟨entry, hentry, heq⟩)
  simp [variableLayer, variableFor?, hnone]

end VariableLayer

/-- The variables of an environment set their fields, if their values can be read. -/
theorem apply_eq_ok_iff {environment : Environment} {config config' : Config}
    {listed : List (Text × Field)} (hlisted : (listed.map Prod.snd).Nodup) :
    environment.apply config listed = .ok config' ↔
      config.Takes (variableLayer environment listed) config' := by
  induction listed generalizing config with
  | nil =>
    rw [Environment.apply, Except.ok.injEq]
    exact eq_comm.trans Config.Takes.nothing_iff.symm
  | cons entry rest ih =>
    obtain ⟨name, field⟩ := entry
    rw [List.map_cons, List.nodup_cons] at hlisted
    obtain ⟨hnew, hrest⟩ := hlisted
    have hfield := @variableLayer_cons_self environment field name rest
    have hgone : variableLayer environment rest field = none := variableLayer_eq_none hnew
    rw [Environment.apply]
    cases hvalue : environment.value? name with
    | none =>
      rw [hvalue, Option.map_none] at hfield
      have hsame : variableLayer environment ((name, field) :: rest) =
          variableLayer environment rest := by
        funext other
        by_cases h : other = field
        · rw [h, hfield, hgone]
        · exact variableLayer_cons_of_ne h
      rw [hsame]
      exact ih hrest
    | some value =>
      rw [hvalue, Option.map_some] at hfield
      simp only
      cases hread : field.ofVariable value with
      | none =>
        rw [hread] at hfield
        exact ⟨(fun h => by cases h), fun h => absurd h (Config.Takes.not_of_misfit hfield)⟩
      | some content =>
        rw [hread] at hfield
        exact (ih hrest).trans
          (Config.Takes.set_iff hgone hfield fun _ => variableLayer_cons_of_ne)

/-- Every field has at most one variable. -/
theorem fieldVariables_nodup : (Environment.fieldVariables.map Prod.snd).Nodup := by decide

/-! ## Environment files -/

/-- The path of an environment file in a directory. -/
def Environment.pathIn (directory : Location) : Text :=
  Location.text (directory ++ [Environment.fileName])

/-- The environment file of a program: the one that is named, or else the one in the nearest of
the directories from its own place to the root that has one. -/
inductive Environment.Chooses (tree : Tree) (program : Location) :
    (named file : Option Text) → Prop
  | named (path : Text) : Chooses tree program (some path) (some path)
  | nearest (n : Nat) (hle : n ≤ program.length)
      (hfile : tree.hasFile (pathIn (program.take n)) = true)
      (hnearer : ∀ m ≤ program.length, n < m →
        tree.hasFile (pathIn (program.take m)) = false) :
      Chooses tree program none (some (pathIn (program.take n)))
  | nothing (hnone : ∀ n ≤ program.length, tree.hasFile (pathIn (program.take n)) = false) :
      Chooses tree program none none

theorem nearest?_of_hasFile {tree : Tree} {reversed : List Text}
    (h : tree.hasFile (Environment.pathIn reversed.reverse) = true) :
    Environment.nearest? tree reversed = some (Environment.pathIn reversed.reverse) := by
  rw [Environment.nearest?.eq_def]
  exact if_pos h

theorem nearest?_nil {tree : Tree} (h : tree.hasFile (Environment.pathIn []) = false) :
    Environment.nearest? tree [] = none := by
  have hnot : ¬tree.hasFile (Environment.pathIn []) = true := by rw [h]; exact Bool.false_ne_true
  exact if_neg hnot

theorem nearest?_cons {tree : Tree} {name : Text} {above : List Text}
    (h : tree.hasFile (Environment.pathIn (name :: above).reverse) = false) :
    Environment.nearest? tree (name :: above) = Environment.nearest? tree above := by
  have hnot : ¬tree.hasFile (Environment.pathIn (name :: above).reverse) = true := by
    rw [h]
    exact Bool.false_ne_true
  rw [Environment.nearest?.eq_def]
  exact if_neg hnot

/-- The environment file in the program's own directory is the nearest one. -/
theorem Environment.Chooses.own {tree : Tree} {program : Location}
    (h : tree.hasFile (pathIn program) = true) :
    Chooses tree program none (some (pathIn program)) := by
  have hwhole : program.take program.length = program := List.take_length
  have hnearest := @Chooses.nearest tree program program.length (Nat.le_refl _)
    (by rwa [hwhole]) fun m hm hlt => absurd hlt (Nat.not_lt_of_le hm)
  rwa [hwhole] at hnearest

/-- What is chosen for a directory is chosen for one in it that has no environment file. -/
theorem Environment.Chooses.below {tree : Tree} {program : Location} {name : Text}
    {file : Option Text} (h : Chooses tree program none file)
    (hown : tree.hasFile (pathIn (program ++ [name])) = false) :
    Chooses tree (program ++ [name]) none file := by
  have htake {n : Nat} (hn : n ≤ program.length) : (program ++ [name]).take n = program.take n :=
    List.take_append_of_le_length hn
  have hwhole : (program ++ [name]).take (program.length + 1) = program ++ [name] :=
    List.take_of_length_le (by simp)
  have hcases {m : Nat} (hm : m ≤ (program ++ [name]).length) :
      m ≤ program.length ∨ m = program.length + 1 := by
    rw [List.length_append, List.length_singleton] at hm
    omega
  cases h with
  | nearest n hle hfile hnearer =>
    rw [← htake hle]
    refine .nearest n (by rw [List.length_append]; omega) (by rw [htake hle]; exact hfile)
      fun m hm hlt => ?_
    rcases hcases hm with hinner | rfl
    · rw [htake hinner]
      exact hnearer m hinner hlt
    · rw [hwhole]
      exact hown
  | nothing hnone =>
    refine .nothing fun m hm => ?_
    rcases hcases hm with hinner | rfl
    · rw [htake hinner]
      exact hnone m hinner
    · rw [hwhole]
      exact hown

theorem chooses_nearest? (tree : Tree) (reversed : List Text) :
    Environment.Chooses tree reversed.reverse none (Environment.nearest? tree reversed) := by
  induction reversed with
  | nil =>
    cases hown : tree.hasFile (Environment.pathIn []) with
    | true =>
      rw [nearest?_of_hasFile hown]
      exact .own hown
    | false =>
      rw [nearest?_nil hown]
      refine .nothing fun n _ => ?_
      rw [List.reverse_nil, List.take_nil]
      exact hown
  | cons name above ih =>
    cases hown : tree.hasFile (Environment.pathIn (name :: above).reverse) with
    | true =>
      rw [nearest?_of_hasFile hown]
      exact .own hown
    | false =>
      rw [nearest?_cons hown, List.reverse_cons]
      rw [List.reverse_cons] at hown
      exact ih.below hown

/-- The environment file that is read is the chosen one. -/
theorem chooses_fileOf? (tree : Tree) (program : Location) (named : Option Text) :
    Environment.Chooses tree program named (Environment.fileOf? tree program named) := by
  cases named with
  | some path => exact .named path
  | none =>
    have h := chooses_nearest? tree program.reverse
    rwa [List.reverse_reverse] at h

/-- What an environment file has to say: nothing if there is none, or if the
environment forbids it. -/
def Environment.fileValues (environment : Environment) (tree : Tree) (path : Option Text) :
    EnvFile.Values :=
  match path with
  | none | some [] => []
  | some path =>
    if environment.forbidsFiles then []
    else
      match tree.status true path with
      | .ok (_, .file _) =>
        match tree.readText path with
        | .ok text => EnvFile.expand environment (EnvFile.bindings text)
        | .error _ => []
      | _ => []

theorem expand_nodup (environment : Environment) (bindings : List EnvFile.Binding) :
    ((EnvFile.expand environment bindings).map Prod.fst).Nodup := by
  rw [EnvFile.expand]
  exact List.foldlRecOn (motive := fun values : EnvFile.Values => (values.map Prod.fst).Nodup)
    bindings _ List.nodup_nil fun _ hvalues _ _ => nodup_keys_put _ _ hvalues

theorem fileValues_nodup (environment : Environment) (tree : Tree) (path : Option Text) :
    ((environment.fileValues tree path).map Prod.fst).Nodup := by
  unfold Environment.fileValues
  split
  · exact List.nodup_nil
  · exact List.nodup_nil
  · split
    · exact List.nodup_nil
    · split
      · split
        · exact expand_nodup environment _
        · exact List.nodup_nil
      · exact List.nodup_nil

/-- An environment file adds what the environment does not have. -/
theorem extend_of_withFile {environment environment' : Environment} {tree : Tree}
    {path : Option Text} (h : environment.withFile tree path = .ok environment') :
    environment.extend (environment.fileValues tree path) = .ok environment' := by
  unfold Environment.withFile at h
  unfold Environment.fileValues
  split at h
  · exact h
  · exact h
  · next path _ =>
    cases hforbids : environment.forbidsFiles with
    | true =>
      simp only [hforbids, if_true] at h ⊢
      exact h
    | false =>
      simp only [hforbids, Bool.false_eq_true, if_false] at h ⊢
      rcases hstatus : tree.status true path with fault | ⟨place, node⟩
      · rw [hstatus] at h
        cases fault with
        | system => exact h
        | _ => cases h
      · rw [hstatus] at h
        cases node with
        | file octets =>
          cases hread : tree.readText path with
          | error fault =>
            simp only [hread] at h
            cases h
          | ok text =>
            simp only [hread] at h ⊢
            exact h
        | directory | link => exact h

/-- A variable has the value that the environment has for it, and otherwise the one
that the values have. -/
theorem lookup_extend {environment environment' : Environment} {values : EnvFile.Values}
    (hvalues : (values.map Prod.fst).Nodup) (h : environment.extend values = .ok environment')
    (name : Text) :
    environment'.lookup name = (environment.lookup name).or (values.lookup name).join := by
  induction values generalizing environment with
  | nil =>
    cases h
    simp
  | cons entry rest ih =>
    obtain ⟨other, value⟩ := entry
    rw [List.map_cons, List.nodup_cons] at hvalues
    obtain ⟨hnew, hrest⟩ := hvalues
    have hgone : rest.lookup other = none := lookup_eq_none_of_new hnew
    rw [Environment.extend.eq_def] at h
    cases hthere : environment.lookup other with
    | some there =>
      simp only [hthere] at h
      rw [ih hrest h, List.lookup_cons]
      by_cases hname : name = other
      · rw [hname, hthere, Option.some_or, Option.some_or]
      · rw [beq_eq_false_iff_ne.mpr hname]
    | none =>
      simp only [hthere] at h
      cases value with
      | none =>
        simp only at h
        rw [ih hrest h, List.lookup_cons]
        by_cases hname : name = other
        · rw [hname, hgone, beq_self_eq_true]
          rfl
        · rw [beq_eq_false_iff_ne.mpr hname]
      | some value =>
        simp only at h
        split at h
        · cases h
        · split at h
          · cases h
          · rw [ih hrest h, List.lookup_append, List.lookup_cons, List.lookup_cons]
            by_cases hname : name = other
            · rw [hname, hthere, beq_self_eq_true]
              rfl
            · rw [beq_eq_false_iff_ne.mpr hname, List.lookup_nil, Option.or_none]

/-- The variables that there are once an environment file was read. -/
theorem lookup_withFile {environment environment' : Environment} {tree : Tree}
    {path : Option Text} (h : environment.withFile tree path = .ok environment') (name : Text) :
    environment'.lookup name =
      (environment.lookup name).or ((environment.fileValues tree path).lookup name).join :=
  lookup_extend (fileValues_nodup environment tree path) (extend_of_withFile h) name

/-! ## Options -/

/-- What the options of a command line have for each field. -/
def Invocation.option? (invocation : Invocation) : (field : Field) → Option field.Content
  | .model => Invocation.given? invocation.model
  | .verbose => if invocation.verbose then some true else none
  | .logFile => (Invocation.given? invocation.logFile).map some
  | .jsonLogs => if invocation.jsonLogs then some true else none
  | _ => none

/-- The options that are given are what their fields hold. -/
theorem withOptions_get (invocation : Invocation) (config : Config) (field : Field) :
    (invocation.withOptions config).get field =
      (invocation.option? field).getD (config.get field) := by
  unfold Invocation.withOptions Invocation.option?
  cases invocation.verbose <;> cases invocation.jsonLogs <;>
    cases Invocation.given? invocation.model <;> cases Invocation.given? invocation.logFile <;>
      cases field <;> rfl

end ProseCompiler
