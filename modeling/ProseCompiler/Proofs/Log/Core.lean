import ProseCompiler.Proofs.Log.Structured

/-!
# The core of a structured line

The core of a line is what it says of the record itself: its level and logger, the message, where
it was made, the document and the failure.  Extra values come after it, and the names that they
may not have are those of attributes.  The fields of the core have other names, so an extra value
can take the place of some of them (`openNames`): `core_is_kept_iff`.
-/

namespace ProseCompiler

namespace Record

open Json (last?)

variable {r : Record} {moment : Moment} {document message name : Text} {value : Json}

/-- What a line has to say of a record, whatever extra values there are. -/
def core (document message : Text) (r : Record) : List (Text × Json) :=
  let own : List (Text × Json) :=
    [("level", .text r.level.name), ("logger", .text r.logger), ("message", .text message),
     ("module", .text r.origin.moduleName), ("function", optional r.origin.function),
     ("line", .integer r.origin.line)]
  let place : List (Text × Json) := if document = [] then [] else [("document", .text document)]
  let failure : List (Text × Json) := match r.cause with
    | some cause => [("exception", cause.value)]
    | none => []
  own ++ place ++ failure

/-- Fields that say of a record and of the document what they are. -/
structure KeepsCore (document message : Text) (r : Record) (fields : List (Text × Json)) :
    Prop where
  kept : ∀ name value, (name, value) ∈ r.core document message →
    Json.field? fields name = some value
  noDocument : document = [] → Json.field? fields "document" = none

/-- The fields of the core that do not have the name of an attribute that lines hide. -/
def openNames : List Text := ["level", "logger", "function", "line", "exception"]

/-! ## Records with all of their parts -/

/-- A part that no extra value has the name of. -/
theorem value_of_notMem (h : name ∉ r.extra.map Prod.fst) :
    r.value name = (Json.field? r.parts name).getD .null := by
  have hnone : last? r.extra name = none := by
    refine Option.eq_none_iff_forall_ne_some.mpr fun value hvalue => h ?_
    exact List.mem_map.mpr ⟨_, Json.last?_mem hvalue, rfl⟩
  rw [value, field?_attributes, hnone, Option.none_or]

theorem coreFields_eq (hextra : ∀ name ∈ r.extra.map Prod.fst, name ∉ partNames) :
    r.coreFields moment document message =
      (("timestamp" : Text), Json.text moment.structured) :: r.core document message := by
  have hpart {name : Text} (hname : name ∈ partNames) :
      r.value name = (Json.field? r.parts name).getD .null :=
    value_of_notMem fun hmem => hextra name hmem hname
  have hlevel : r.value "levelname" = .text r.level.name := hpart (by decide)
  have hlogger : r.value "name" = .text r.logger := hpart (by decide)
  have hmodule : r.value "module" = .text r.origin.moduleName := hpart (by decide)
  have hfunction : r.value "funcName" = optional r.origin.function := hpart (by decide)
  have hline : r.value "lineno" = .integer r.origin.line := hpart (by decide)
  rw [coreFields, hlevel, hlogger, hmodule, hfunction, hline]
  rfl

/-- A name of the core is of a field that the line hides, or is open. -/
theorem mem_openNames_of_isShown (hextra : ∀ name ∈ r.extra.map Prod.fst, name ∉ partNames)
    (hcore : (name, value) ∈ r.core document message) (hshown : isShown name = true) :
    name ∈ openNames := by
  have hname : name ∈ fieldNames.tail := by
    have hsub := names_coreFields ⟨[], []⟩ document message r
    rw [coreFields_eq hextra] at hsub
    exact (List.Sublist.of_cons_cons hsub).subset (List.mem_map_of_mem hcore)
  have hall : ∀ name ∈ fieldNames.tail, isShown name = true → name ∈ openNames := by decide
  exact hall name hname hshown

/-- A field of the core stands in the line unless a shown attribute of the same name says
otherwise. -/
theorem field?_lineFields_eq_some_iff
    (hextra : ∀ name ∈ r.extra.map Prod.fst, name ∉ partNames)
    (hcore : (name, value) ∈ r.core document message) :
    Json.field? (r.lineFields moment document message) name = some value ↔
      (isShown name = true → ∀ given, Json.field? r.attributes name = some given →
        given = value) := by
  have hown : Json.field? (r.coreFields moment document message) name = some value := by
    have hnodup := nodup_coreFields moment document message r
    rw [Json.field?, ← mem_iff_lookup_eq_some hnodup, coreFields_eq hextra]
    exact List.mem_cons_of_mem _ hcore
  rw [field?_lineFields, hown]
  cases isShown name with
  | false => simp
  | true => cases Json.field? r.attributes name <;> simp

/-- The structured line of a record, whose extra values have no name of a part, keeps the core if
and only if no extra value with an open name says something else.  What such a value says stands
in the line; the message, the module and the document are kept in any case.  A writer with bounds
writes this line, or none. -/
theorem core_is_kept_iff (hextra : ∀ name ∈ r.extra.map Prod.fst, name ∉ partNames)
    (htext : r.text = .ok message) :
    ∃ fields, r.structuredFields moment document = .ok fields ∧
      r.structuredLine moment document = .ok (Json.write Json.ascii (.object fields)) ∧
      (∀ limit line, r.structuredLineWithin limit moment document = .ok line →
        line = Json.write Json.ascii (.object fields)) ∧
      (KeepsCore document message r fields ↔ ∀ name ∈ openNames, ∀ value given,
        (name, value) ∈ r.core document message →
          Json.field? r.attributes name = some given → given = value) ∧
      (∀ name ∈ openNames, ∀ given, Json.field? r.attributes name = some given →
        Json.field? fields name = some given) ∧
      ∀ name value, (name, value) ∈ r.core document message → name ∉ openNames →
        Json.field? fields name = some value := by
  have hopen : ∀ name ∈ openNames, isShown name = true := by decide
  refine ⟨r.lineFields moment document message, structuredFields_eq htext, structuredLine_eq htext,
    fun limit line hline => Json.eq_of_writeWithin (structuredLineWithin_eq htext limit ▸ hline),
    ⟨fun h name hname value given hcore => ?agree,
      fun h => ⟨fun name value hcore => ?kept, fun hnone => ?noDocument⟩⟩,
    fun name hname given hgiven => field?_lineFields_of_isShown (hopen name hname) hgiven,
    fun name value hcore hclosed => ?closed⟩
  case agree =>
    exact (field?_lineFields_eq_some_iff hextra hcore).mp (h.kept name value hcore)
      (hopen name hname) given
  case kept =>
    refine (field?_lineFields_eq_some_iff hextra hcore).mpr fun hshown given => ?_
    exact h name (mem_openNames_of_isShown hextra hcore hshown) value given hcore
  case noDocument => rw [field?_document, if_pos hnone]
  case closed =>
    refine (field?_lineFields_eq_some_iff hextra hcore).mpr fun hshown => ?_
    exact absurd (mem_openNames_of_isShown hextra hcore hshown) hclosed

/-- A record that says which failure ended it, with extra values that stay out of the core: names of
their own, names that lines hide, and the line number as it is. -/
def frankRecord : Record where
  logger := "gpt_compiler.test"
  level := .error
  origin := { path := some "/app/job.py", line := 10 }
  message := "m"
  cause := some (.known (.unexpected (.badValue "no")))
  extra :=
    [("log_level", .text "DEBUG"), ("document", .text "spoof"), ("_level", .text "spoof"),
     ("line", .integer 10)]

theorem frank_record_keeps_core :
    ∃ fields, frankRecord.structuredFields ⟨"", "now"⟩ "doc" = .ok fields ∧
      KeepsCore "doc" "m" frankRecord fields := by
  have hextra : ∀ name ∈ frankRecord.extra.map Prod.fst, name ∉ partNames := by decide
  have htext : frankRecord.text = .ok "m" := rfl
  obtain ⟨fields, hfields, -, -, hkept, -, -⟩ := core_is_kept_iff hextra htext
  have hline : Json.field? frankRecord.attributes "line" = some (.integer 10) := rfl
  have hcoreLine : Json.field? (frankRecord.core "doc" "m") "line" = some (.integer 10) := rfl
  have hother : ∀ name ∈ openNames, name ≠ "line" →
      (Json.field? frankRecord.attributes name).isNone = true := by decide
  have hapart : ((frankRecord.core "doc" "m").map Prod.fst).Nodup := by decide
  refine ⟨fields, hfields, hkept.mpr fun name hname value given hcore hgiven => ?_⟩
  by_cases hsame : name = "line"
  · subst hsame
    rw [mem_iff_lookup_eq_some hapart] at hcore
    exact Option.some.inj (hgiven.symm.trans (hline.trans (hcoreLine.symm.trans hcore)))
  · have hnone := hother name hname hsame
    rw [hgiven] at hnone
    cases hnone

/-- A record of plain information that calls itself something else. -/
def spoofedRecord : Record where
  logger := "gpt_compiler.test"
  level := .info
  origin := { path := some "/app/job.py", line := 10 }
  message := "m"
  extra := [("level", .text "spoof")]

/-- An extra value called `level` is what the line says of the level. -/
theorem spoofed_record_forges_level :
    (∀ name ∈ spoofedRecord.extra.map Prod.fst, name ∉ partNames) ∧
      spoofedRecord.text = .ok "m" ∧
      ∃ fields, spoofedRecord.structuredFields ⟨"", "now"⟩ "doc" = .ok fields ∧
        Json.field? fields "level" = some (.text "spoof") ∧
        ¬KeepsCore "doc" "m" spoofedRecord fields := by
  have htext : spoofedRecord.text = .ok "m" := rfl
  have hlevel : Json.field? (spoofedRecord.lineFields ⟨"", "now"⟩ "doc" "m") "level" =
      some (.text "spoof") := rfl
  refine ⟨by decide, htext, _, structuredFields_eq htext, hlevel, fun hkept => ?_⟩
  have hinfo := hkept.kept "level" (.text "INFO") (.head _)
  rw [hlevel] at hinfo
  cases hinfo

end Record

end ProseCompiler
