import ProseCompiler.Log.Line
import ProseCompiler.Proofs.Json.Members
import ProseCompiler.Proofs.Json.Printable

/-!
# Structured lines

The fields of a structured line are those that every record has, with the shown attributes put
over them (`field?_lineFields`).  The attributes that lines do not show keep the message, the
module and the document out of reach: no shown attribute has one of these names.

The line is printable ASCII and can be read back as its fields, if what it holds is `IsPlain`:
`structured_line_tells_record`.
-/

namespace ProseCompiler

namespace Record

open Json (last? putAll)

variable {r : Record} {moment : Moment} {document message name : Text} {value : Json}

/-! ## Attributes -/

theorem field?_attributes (r : Record) (name : Text) :
    Json.field? r.attributes name = (last? r.extra name).or (Json.field? r.parts name) :=
  Json.lookup_putAll r.parts r.extra name

theorem field?_parts_of_notMem (h : name ∉ partNames) : Json.field? r.parts name = none := by
  rw [Json.field?, List.lookup_eq_none_iff]
  intro part hpart
  have hall : ∀ known ∈ r.parts.map Prod.fst, known ∈ partNames := by
    have hnames : r.parts.map Prod.fst = ["name", "msg", "args", "levelname", "levelno", "pathname",
        "filename", "module", "exc_text", "stack_info", "lineno", "funcName"] := rfl
    rw [hnames]
    decide
  have hne : name ≠ part.1 := by
    rintro rfl
    exact h (hall _ (List.mem_map_of_mem hpart))
  simpa using hne

theorem notMem_of_isShown (h : isShown name = true) : name ∉ reservedNames := by
  simp only [isShown, Bool.and_eq_true, Bool.not_eq_true', List.contains_eq_mem,
    decide_eq_false_iff_not] at h
  exact h.1

/-- An attribute that lines show is an extra value. -/
theorem field?_attributes_of_isShown (h : isShown name = true) :
    Json.field? r.attributes name = last? r.extra name := by
  have hpart : name ∉ partNames := fun hmem =>
    notMem_of_isShown h (List.mem_append_left _ hmem)
  rw [field?_attributes, field?_parts_of_notMem hpart, Option.or_none]

theorem mem_extra_of_isShown (h : isShown name = true)
    (hvalue : Json.field? r.attributes name = some value) : (name, value) ∈ r.extra := by
  rw [field?_attributes_of_isShown h] at hvalue
  exact Json.last?_mem hvalue

/-! ## The fields of a line -/

/-- The names of the fields that a line has of its own. -/
def fieldNames : List Text :=
  ["timestamp", "level", "logger", "message", "module", "function", "line", "document", "exception"]

/-- The fields of the line of a record whose message is known. -/
def lineFields (moment : Moment) (document message : Text) (r : Record) : List (Text × Json) :=
  putAll (r.coreFields moment document message) (r.extra.filter fun (name, _) => isShown name)

theorem structuredFields_eq (h : r.text = .ok message) :
    r.structuredFields moment document = .ok (r.lineFields moment document message) := by
  rw [structuredFields, h]
  rfl

theorem structuredLine_eq (h : r.text = .ok message) :
    r.structuredLine moment document =
      .ok (Json.write Json.ascii (.object (r.lineFields moment document message))) := by
  rw [structuredLine, structuredFields_eq h]
  rfl

theorem structuredLineWithin_eq (h : r.text = .ok message) (limit : Nat) :
    r.structuredLineWithin limit moment document =
      Json.writeWithin limit Json.ascii (.object (r.lineFields moment document message)) := by
  rw [structuredLineWithin, structuredFields_eq h]
  rfl

/-- A shown attribute stands in the line, whatever field it takes the place of; otherwise the
line has its own fields. -/
theorem field?_lineFields (moment : Moment) (document message : Text) (r : Record) (name : Text) :
    Json.field? (r.lineFields moment document message) name =
      (if isShown name then Json.field? r.attributes name else none).or
        (Json.field? (r.coreFields moment document message) name) := by
  rw [lineFields, Json.field?, Json.lookup_putAll, Json.last?_filter]
  split
  · next h => rw [field?_attributes_of_isShown h]; rfl
  · rfl

theorem field?_lineFields_of_hidden (h : isShown name = false) :
    Json.field? (r.lineFields moment document message) name =
      Json.field? (r.coreFields moment document message) name := by
  rw [field?_lineFields, h]
  rfl

theorem field?_lineFields_of_isShown (h : isShown name = true)
    (hvalue : Json.field? r.attributes name = some value) :
    Json.field? (r.lineFields moment document message) name = some value := by
  rw [field?_lineFields, if_pos h, hvalue, Option.some_or]

/-! ## The fields of its own -/

theorem names_coreFields (moment : Moment) (document message : Text) (r : Record) :
    ((r.coreFields moment document message).map Prod.fst).Sublist fieldNames := by
  rw [coreFields]
  split <;> cases r.cause <;> simp only [List.map_append, List.map_cons, List.map_nil] <;> decide

theorem nodup_coreFields (moment : Moment) (document message : Text) (r : Record) :
    ((r.coreFields moment document message).map Prod.fst).Nodup := by
  have hnames : fieldNames.Nodup := by decide
  exact hnames.sublist (names_coreFields moment document message r)

theorem nodup_lineFields (moment : Moment) (document message : Text) (r : Record) :
    ((r.lineFields moment document message).map Prod.fst).Nodup :=
  Json.nodup_putAll _ (nodup_coreFields moment document message r)

/-- A field of a line shows an attribute, or is one of the line's own. -/
theorem mem_lineFields (h : (name, value) ∈ r.lineFields moment document message) :
    isShown name = true ∧ Json.field? r.attributes name = some value ∨
      (name, value) ∈ r.coreFields moment document message := by
  rw [mem_iff_lookup_eq_some (nodup_lineFields moment document message r)] at h
  rw [← Json.field?, field?_lineFields, Option.or_eq_some_iff] at h
  rcases h with hextra | ⟨-, hcore⟩
  · split at hextra
    · next hshown => exact .inl ⟨hshown, hextra⟩
    · cases hextra
  · obtain ⟨before, after, hfields, -⟩ := List.lookup_eq_some_iff.mp hcore
    exact .inr (hfields ▸ List.mem_append_cons_self)

/-- The message is the one with its values filled in, whatever the extra values are. -/
theorem field?_message (moment : Moment) (document message : Text) (r : Record) :
    Json.field? (r.lineFields moment document message) "message" = some (.text message) :=
  field?_lineFields_of_hidden (by decide)

/-- The document is the one that is being compiled, and is left out if there is none. -/
theorem field?_document (moment : Moment) (document message : Text) (r : Record) :
    Json.field? (r.lineFields moment document message) "document" =
      if document = [] then none else some (.text document) := by
  rw [field?_lineFields_of_hidden (by decide), coreFields]
  split <;> cases r.cause <;> rfl

/-! ## Lines read back -/

/-- The attributes that a line shows under names of its own. -/
def shownParts : List Text := ["levelname", "name", "module", "funcName", "lineno"]

/-- What the line of a record holds besides its message: texts without pairs of surrogates,
integers that are not too long, truth values and null, and at most `depth` arrays and objects of
these inside one another.  Attributes that lines do not show may be anything. -/
structure IsPlain (r : Record) (depth : Nat) : Prop where
  parts : ∀ name ∈ shownParts, Json.Plain Text.Unpaired depth (r.value name)
  cause : ∀ cause, r.cause = some cause → Json.Plain Text.Unpaired depth cause.value
  extra : ∀ name value, isShown name = true → Json.field? r.attributes name = some value →
    name.Unpaired ∧ Json.Plain Text.Unpaired depth value

variable {depth : Nat}

theorem IsPlain.coreFields (h : r.IsPlain depth) (hmoment : moment.structured.Unpaired)
    (hdocument : document.Unpaired) (hmessage : message.Unpaired) :
    ∀ field ∈ r.coreFields moment document message, Json.Plain Text.Unpaired depth field.2 := by
  intro field hfield
  simp only [Record.coreFields, List.mem_append, or_assoc] at hfield
  rcases hfield with hown | hplace | hcause
  · simp only [List.mem_cons, List.not_mem_nil, or_false] at hown
    rcases hown with rfl | rfl | rfl | rfl | rfl | rfl | rfl
    · exact .text hmoment
    · exact h.parts _ (by decide)
    · exact h.parts _ (by decide)
    · exact .text hmessage
    · exact h.parts _ (by decide)
    · exact h.parts _ (by decide)
    · exact h.parts _ (by decide)
  · split at hplace
    · cases hplace
    · obtain rfl := List.mem_singleton.mp hplace
      exact .text hdocument
  · split at hcause
    · next cause heq =>
      obtain rfl := List.mem_singleton.mp hcause
      exact h.cause cause heq
    · cases hcause

theorem IsPlain.lineFields (h : r.IsPlain depth) (hmoment : moment.structured.Unpaired)
    (hdocument : document.Unpaired) (hmessage : message.Unpaired) :
    Json.Plain Text.Unpaired (depth + 1) (.object (r.lineFields moment document message)) := by
  have hown : ∀ name ∈ fieldNames, name.Unpaired := by decide
  refine .object (fun field hfield => ?_) (nodup_lineFields moment document message r)
    fun field hfield => ?_
  · rcases mem_lineFields hfield with ⟨hshown, hvalue⟩ | hcore
    · exact (h.extra _ _ hshown hvalue).1
    · exact hown _ ((names_coreFields moment document message r).subset
        (List.mem_map_of_mem hcore))
  · rcases mem_lineFields hfield with ⟨hshown, hvalue⟩ | hcore
    · exact (h.extra _ _ hshown hvalue).2
    · exact h.coreFields hmoment hdocument hmessage _ hcore

/-- The structured line of a record is one line of printable ASCII, and reading it back gives an
object with the message and the document as they are, with every shown attribute, and with no
other field but the line's own.  A writer and a reader need room for one level more than the
values have; `Json.read` is the reader with room for `Json.depthLimit`.

No text without surrogates has a pair of them (`Text.unpaired_of_scalar`).  The message has to be
named apart from the attributes, since a number that fills a place can bring a surrogate. -/
theorem structured_line_tells_record (hplain : r.IsPlain depth)
    (hmoment : moment.structured.Unpaired) (hdocument : document.Unpaired)
    (htext : r.text = .ok message) (hmessage : message.Unpaired) :
    ∃ line fields, r.structuredLine moment document = .ok line ∧ line.IsPrintableAscii ∧
      (∀ limit, depth < limit → r.structuredLineWithin limit moment document = .ok line) ∧
      (∀ limit, depth < limit → Json.readWithin limit line = .ok (.object fields)) ∧
      Json.field? fields "message" = some (.text message) ∧
      Json.field? fields "document" = (if document = [] then none else some (.text document)) ∧
      (∀ name value, isShown name = true → Json.field? r.attributes name = some value →
        Json.field? fields name = some value) ∧
      ∀ name ∈ fields.map Prod.fst, name ∈ fieldNames ∨
        isShown name = true ∧ (Json.field? r.attributes name).isSome := by
  have hline := hplain.lineFields hmoment hdocument hmessage
  refine ⟨_, r.lineFields moment document message, structuredLine_eq htext,
    hline.isPrintableAscii, ?_, ?_, field?_message moment document message r,
    field?_document moment document message r,
    fun name value hshown hvalue => field?_lineFields_of_isShown hshown hvalue, ?_⟩
  · intro limit hlimit
    rw [structuredLineWithin_eq htext]
    exact (hline.imp (fun _ h => h) hlimit).writeWithin Json.ascii
  · intro limit hlimit
    exact Json.readWithin_write Json.ascii_legible
      (hline.imp (fun _ => Json.ascii_spells) hlimit)
  · intro name hname
    obtain ⟨⟨name, value⟩, hfield, rfl⟩ := List.mem_map.mp hname
    rcases mem_lineFields hfield with ⟨hshown, hvalue⟩ | hcore
    · exact .inr ⟨hshown, by rw [hvalue]; rfl⟩
    · exact .inl ((names_coreFields moment document message r).subset (List.mem_map_of_mem hcore))

def markedMoment : Moment := ⟨"2024-01-01 00:00:00,000", "2024-01-01T00:00:00+00:00"⟩

def markedSizes : Json :=
  .object [("sizes", .array [.integer (-5), .bool true, .null]), ("", .text "😀\t")]

theorem markedSizes_plain : Json.Plain Text.Unpaired 2 markedSizes := by
  refine .object (by decide) (by decide) ?_
  simp only [List.forall_mem_cons, List.not_mem_nil, false_imp_iff, implies_true, and_true]
  refine ⟨.array ?_, .text (by decide)⟩
  simp only [List.forall_mem_cons, List.not_mem_nil, false_imp_iff, implies_true, and_true]
  exact ⟨.integer (by decide +kernel), .bool true, .null⟩

/-- Extra values that are nested, named like a field of the line, or hidden. -/
def markedExtra : List (Text × Json) :=
  [("größe", markedSizes), ("level", .text "loud"), ("message", .text "mine"), ("document", .null),
   ("_secret", .real Binary64.nan)]

/-- A record with such values, with a failure, and with quotes, a line break and code points of
every length in its message. -/
def markedRecord : Record where
  logger := "gpt_compiler.job"
  level := .warning
  origin := { path := some "/app/job.py", line := 10 }
  message := "Say \"%s\"\n%d%%"
  arguments := [.text "a\\b é✓😀", .integer 7]
  cause := some (.known (.unexpected (.badValue "no\rway")))
  extra := markedExtra

theorem markedRecord_isPlain : markedRecord.IsPlain 2 where
  parts := by
    have hparts : shownParts.map markedRecord.value =
        [.text "WARNING", .text "gpt_compiler.job", .text "job", .null, .integer 10] := rfl
    have hplain : ∀ value ∈ shownParts.map markedRecord.value,
        Json.Plain Text.Unpaired 2 value := by
      rw [hparts]
      simp only [List.forall_mem_cons, List.not_mem_nil, false_imp_iff, implies_true, and_true]
      exact ⟨.text (by decide), .text (by decide), .text (by decide), .null,
        .integer (by decide +kernel)⟩
    exact fun name hname => hplain _ (List.mem_map_of_mem hname)
  cause := by
    rintro _ ⟨⟩
    have hvalue : Cause.value (.known (.unexpected (.badValue "no\rway"))) = .object
        [("type", .text "ValueError"), ("message", .text "no\rway"),
         ("traceback", .array [.text "ValueError: no\rway\n"])] := rfl
    rw [hvalue]
    refine .object (by decide) (by decide) ?_
    simp only [List.forall_mem_cons, List.not_mem_nil, false_imp_iff, implies_true, and_true]
    have htrace : Text.Unpaired "ValueError: no\rway\n" := by decide
    refine ⟨.text (by decide), .text (by decide), .array fun item hitem => ?_⟩
    obtain rfl := List.mem_singleton.mp hitem
    exact .text htrace
  extra := by
    have hextra : ∀ entry ∈ markedExtra, isShown entry.1 = true →
        entry.1.Unpaired ∧ Json.Plain Text.Unpaired 2 entry.2 := by
      rw [markedExtra]
      simp only [List.forall_mem_cons, List.not_mem_nil, false_imp_iff, implies_true, and_true]
      exact ⟨fun _ => ⟨by decide, markedSizes_plain⟩, fun _ => ⟨by decide, .text (by decide)⟩,
        fun h => absurd h (by decide), fun h => absurd h (by decide),
        fun h => absurd h (by decide)⟩
    exact fun name value hshown hvalue =>
      hextra (name, value) (mem_extra_of_isShown hshown hvalue) hshown

/-- The message comes back with its line break and its quotes, and the nested values as they are;
the extra value called `level` stands in the place of the level. -/
theorem marked_record_is_told :
    ∃ line fields, markedRecord.structuredLine markedMoment "a.gpt" = .ok line ∧
      line.IsPrintableAscii ∧ Json.read line = .ok (.object fields) ∧
      Json.field? fields "message" = some (.text "Say \"a\\b é✓😀\"\n7%") ∧
      Json.field? fields "document" = some (.text "a.gpt") ∧
      Json.field? fields "größe" = some markedSizes ∧
      Json.field? fields "level" = some (.text "loud") ∧
      ("_secret" : Text) ∉ fields.map Prod.fst := by
  have hmoment : markedMoment.structured.Unpaired := by decide
  have hdocument : Text.Unpaired "a.gpt" := by decide
  have htext : markedRecord.text = .ok "Say \"a\\b é✓😀\"\n7%" := rfl
  obtain ⟨line, fields, hline, hascii, -, hread, hmessage, hplace, hshown, hnames⟩ :=
    structured_line_tells_record markedRecord_isPlain hmoment hdocument htext (by decide)
  have hback : Json.read line = .ok (.object fields) := by
    rw [← Json.readWithin_depthLimit]
    exact hread _ (by decide)
  have hsecret : ("_secret" : Text) ∉ fields.map Prod.fst :=
    fun h => absurd (hnames _ h) (by decide)
  exact ⟨line, fields, hline, hascii, hback, hmessage, hplace, hshown _ _ (by decide) rfl,
    hshown _ _ (by decide) rfl, hsecret⟩

end Record

end ProseCompiler
