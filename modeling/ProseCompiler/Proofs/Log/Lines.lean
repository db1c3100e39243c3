import ProseCompiler.Log.Logbook

/-!
# The lines of a message

A message without values for the places in it, without extra values and without a failure is
written as it stands, whatever percent signs it has.  `Report.line_console` and
`Report.line_file` say what stands around it, in plain and in structured lines.
-/

namespace ProseCompiler

/-! ## Places without a width -/

theorem Text.padLeft_zero (filler : CodePoint) (t : Text) : padLeft 0 filler t = t := by
  rw [padLeft, fill, Nat.zero_sub]
  rfl

theorem Pattern.placeInteger_plain (i : Int) :
    ({} : Directive).placeInteger i [] Text.ofNat = Number.ofInt i := by
  have hplace : ({} : Directive).placeInteger i [] Text.ofNat =
      Text.padLeft 0 ' ' ((if decide (i < 0) then "-" else "" : Text) ++ [] ++
        Text.padLeft 0 '0' (Text.ofNat i.natAbs)) := rfl
  rw [hplace, Text.padLeft_zero, Text.padLeft_zero, List.append_nil, Number.ofInt]
  by_cases hi : i < 0
  · simp only [hi, decide_true, if_true]
    rfl
  · simp only [hi, decide_false, if_false]
    rfl

/-! ## The length of what is written -/

namespace Json

variable (style : Style)

theorem numbered_ne_nil (n : Nat) : numbered n ≠ [] :=
  List.append_ne_nil_of_left_ne_nil (List.cons_ne_nil _ _) _

theorem escaped_ne_nil (keepsWide : Bool) (c : CodePoint) : escaped keepsWide c ≠ [] := by
  unfold escaped
  repeat' split
  all_goals first
    | exact numbered_ne_nil _
    | exact List.append_ne_nil_of_left_ne_nil (numbered_ne_nil _) _
    | exact List.cons_ne_nil _ _

/-- A string is longer than what it spells, by its quotes at least. -/
theorem length_lt_writeText (t : Text) : t.length < (writeText style t).length := by
  have hinner : t.length ≤ (t.flatMap (escaped style.keepsWide)).length := by
    induction t with
    | nil => exact Nat.zero_le _
    | cons c t ih =>
      have hc := List.length_pos_iff.mpr (escaped_ne_nil style.keepsWide c)
      rw [List.flatMap_cons, List.length_append, List.length_cons]
      omega
  have hquote : ("\"" : Text).length = 1 := rfl
  simp only [writeText, List.length_append]
  omega

/-- An object is as long as the value of any of its fields. -/
theorem length_write_le_of_mem {name : Text} {value : Json} {fields : List (Text × Json)}
    (h : (name, value) ∈ fields) :
    (write style value).length ≤ (writeFields style fields).length := by
  induction fields with
  | nil => cases h
  | cons field rest ih =>
    obtain ⟨name', value'⟩ := field
    have hrest : writeFields style ((name', value') :: rest) = writeText style name' ++
        style.colon ++ write style value' ++
          (if rest = [] then [] else style.comma ++ writeFields style rest) := by
      cases rest <;> simp [writeFields]
    rw [hrest]
    simp only [List.length_append]
    rcases List.mem_cons.mp h with heq | hmem
    · cases heq
      omega
    · have hne : rest ≠ [] := List.ne_nil_of_mem hmem
      have hle := ih hmem
      rw [if_neg hne, List.length_append]
      omega

end Json

/-! ## Reports -/

/-- A message that is reported: when, for which document, by which logger, with which level and
from where. -/
structure Report where
  moment : Moment
  document : Text
  logger : Text
  level : Level
  origin : Origin
  message : Text

/-- How a logbook writes its lines: structured, or as a pattern says. -/
def LineForm.of (structured : Bool) (pattern : Text) : LineForm :=
  if structured then .structured else .plain pattern

namespace Report

/-- The record of a report. -/
def record (r : Report) : Record :=
  { logger := r.logger, level := r.level, origin := r.origin, message := r.message }

/-- The document as plain lines show it. -/
def shownDocument (r : Report) : Text :=
  if r.document = [] then Record.noDocument else r.document

/-- The fields of a structured line. -/
def fields (r : Report) : List (Text × Json) :=
  let own : List (Text × Json) :=
    [("timestamp", .text r.moment.structured), ("level", .text r.level.name),
     ("logger", .text r.logger), ("message", .text r.message),
     ("module", .text r.origin.moduleName), ("function", Record.optional r.origin.function),
     ("line", .integer r.origin.line)]
  let place : List (Text × Json) :=
    if r.document = [] then [] else [("document", .text r.document)]
  own ++ place

/-- The line of a report on the console. -/
def consoleLine (r : Report) (structured : Bool) : Text :=
  if structured then Json.write Json.ascii (.object r.fields)
  else ([Text.padRight 8 r.level.name, " | ", r.message] : List Text).flatten

/-- The line of a report in a log file. -/
def fileLine (r : Report) (structured : Bool) : Text :=
  if structured then Json.write Json.ascii (.object r.fields)
  else ([r.moment.plain, " | ", Text.padRight 8 r.level.name, " | [", r.shownDocument, "] | ",
    r.logger, ":", Number.ofInt r.origin.line, " | ", r.message] : List Text).flatten

variable (r : Report) (structured : Bool)

theorem plainLine_console :
    r.record.plainLine consolePattern r.moment r.document = .ok (r.consoleLine false) := by
  have hline : r.record.plainLine consolePattern r.moment r.document =
      .ok ([Text.padRight 8 r.level.name, " | ", Text.padLeft 0 ' ' r.message] : List Text).flatten :=
    rfl
  rw [hline, Text.padLeft_zero]
  rfl

theorem plainLine_file :
    r.record.plainLine filePattern r.moment r.document = .ok (r.fileLine false) := by
  have hline : r.record.plainLine filePattern r.moment r.document =
      .ok ([Text.padLeft 0 ' ' r.moment.plain, " | ", Text.padRight 8 r.level.name, " | [",
        Text.padLeft 0 ' ' r.shownDocument, "] | ", Text.padLeft 0 ' ' r.logger, ":",
        ({} : Pattern.Directive).placeInteger r.origin.line [] Text.ofNat, " | ",
        Text.padLeft 0 ' ' r.message] : List Text).flatten := rfl
  rw [hline, Pattern.placeInteger_plain]
  simp only [Text.padLeft_zero]
  rfl

/-- As a last resort the message is written alone. -/
theorem line_bare : bareForm.line r.moment r.document r.record = .ok r.message := by
  have hline : bareForm.line r.moment r.document r.record = .ok (Text.padLeft 0 ' ' r.message) := by
    have hflat : bareForm.line r.moment r.document r.record =
        .ok ([Text.padLeft 0 ' ' r.message] : List Text).flatten := rfl
    rw [hflat, List.flatten_singleton]
  rw [hline, Text.padLeft_zero]

theorem structuredLine_record :
    r.record.structuredLine r.moment r.document =
      .ok (Json.write Json.ascii (.object r.fields)) := by
  have hfields : r.record.structuredFields r.moment r.document = .ok (r.fields ++ []) := rfl
  rw [Record.structuredLine, hfields, List.append_nil]
  rfl

theorem line_console :
    (LineForm.of structured consolePattern).line r.moment r.document r.record =
      .ok (r.consoleLine structured) := by
  cases structured
  · exact r.plainLine_console
  · exact r.structuredLine_record

theorem line_file :
    (LineForm.of structured filePattern).line r.moment r.document r.record =
      .ok (r.fileLine structured) := by
  cases structured
  · exact r.plainLine_file
  · exact r.structuredLine_record

/-- A line on the console says more than the message. -/
theorem consoleLine_ne_message : r.consoleLine structured ≠ r.message := by
  intro hsame
  have hlength := congrArg List.length hsame
  cases structured with
  | false =>
    simp only [consoleLine, Bool.false_eq_true, if_false, List.length_flatten, List.map_cons,
      List.map_nil, List.sum_cons, List.sum_nil] at hlength
    have hmark : (" | " : Text).length = 3 := rfl
    omega
  | true =>
    have hmember : (("message" : Text), Json.text r.message) ∈ r.fields := by simp [fields]
    have hwritten := Json.length_write_le_of_mem Json.ascii hmember
    have hquoted := Json.length_lt_writeText Json.ascii r.message
    rw [consoleLine, if_pos rfl, Json.write] at hlength
    rw [Json.write] at hwritten
    simp only [List.length_append] at hlength
    omega

end Report

end ProseCompiler
