import ProseCompiler.Proofs.Json.Numerals
import ProseCompiler.Proofs.Json.Strings

/-!
# Writing and reading JSON back

What is written for a value is read as that value, by induction on how deep it is
(`Plain.readsBack`).  The strings in it are those of `Style.spells`, and its numbers are
integers that the reader converts.  An integer is read back if no digit follows, which is so
of everything that stands behind a value (`EndsNumeral`).

The reader takes one unit of fuel for every item and field, and the written text
is longer than that; so the length of the text bounds the fuel throughout.
-/

namespace ProseCompiler.Json

/-! ## Gaps -/

theorem skipGaps_of_not_gap {c : CodePoint} (hc : isGap c = false) (position : Nat) (t : Text) :
    skipGaps position (c :: t) = (position, c :: t) := by
  rw [skipGaps, if_neg (by simp [hc])]

theorem skipGaps_gaps {gaps : Text} (hgaps : ∀ c ∈ gaps, isGap c = true) (position : Nat)
    (t : Text) : skipGaps position (gaps ++ t) = skipGaps (position + gaps.length) t := by
  induction gaps generalizing position with
  | nil => rfl
  | cons c gaps ih =>
    obtain ⟨hc, hgaps⟩ := List.forall_mem_cons.mp hgaps
    rw [List.cons_append, skipGaps, if_pos hc, ih hgaps, List.length_cons]
    congr 1
    omega

/-- A mark of a style: one code point, with nothing but gaps behind it. -/
def IsMark (c : CodePoint) (mark : Text) : Prop :=
  ∃ gaps, mark = c :: gaps ∧ ∀ c ∈ gaps, isGap c = true

theorem IsMark.length_pos {c : CodePoint} {mark : Text} (h : IsMark c mark) : 0 < mark.length := by
  obtain ⟨gaps, rfl, -⟩ := h
  exact Nat.succ_pos _

/-- A style whose marks are those that the reader looks for. -/
structure Style.Legible (style : Style) : Prop where
  comma : IsMark ',' style.comma
  colon : IsMark ':' style.colon

theorem compact_legible : compact.Legible :=
  ⟨⟨[], rfl, by simp⟩, ⟨[], rfl, by simp⟩⟩

theorem ascii_legible : ascii.Legible :=
  ⟨⟨[' '], rfl, by decide⟩, ⟨[' '], rfl, by decide⟩⟩

/-! ## Values -/

/-- Values of words, integers, texts, arrays and objects, at most `depth` of the last two inside
one another: no integer has more digits than are read, every text is one of a kind, and no name
comes twice in an object. -/
inductive Plain (IsText : Text → Prop) : Nat → Json → Prop where
  | null {depth : Nat} : Plain IsText depth .null
  | bool {depth : Nat} (b : Bool) : Plain IsText depth (.bool b)
  | integer {depth : Nat} {i : Int} (hi : i.natAbs < 10 ^ Number.digitLimit) :
      Plain IsText depth (.integer i)
  | text {depth : Nat} {t : Text} (ht : IsText t) : Plain IsText depth (.text t)
  | array {depth : Nat} {items : List Json} (hitems : ∀ item ∈ items, Plain IsText depth item) :
      Plain IsText (depth + 1) (.array items)
  | object {depth : Nat} {fields : List (Text × Json)}
      (hnames : ∀ field ∈ fields, IsText field.1)
      (hdistinct : (fields.map Prod.fst).Nodup)
      (hvalues : ∀ field ∈ fields, Plain IsText depth field.2) :
      Plain IsText (depth + 1) (.object fields)

section Plain

variable {IsText IsOther : Text → Prop} {depth : Nat} {value : Json}

/-- Texts of one kind can be taken for texts of another, and there may be more room. -/
theorem Plain.imp (h : Plain IsText depth value) (htexts : ∀ t, IsText t → IsOther t)
    {depth' : Nat} (hdepth : depth ≤ depth') : Plain IsOther depth' value := by
  induction h generalizing depth' with
  | null => exact .null
  | bool b => exact .bool b
  | integer hi => exact .integer hi
  | text ht => exact .text (htexts _ ht)
  | array _ ih =>
    obtain _ | depth' := depth'
    · exact absurd hdepth (Nat.not_succ_le_zero _)
    · exact .array fun item hitem => ih item hitem (Nat.le_of_succ_le_succ hdepth)
  | object hnames hdistinct _ ih =>
    obtain _ | depth' := depth'
    · exact absurd hdepth (Nat.not_succ_le_zero _)
    · exact .object (fun field hfield => htexts _ (hnames field hfield)) hdistinct
        fun field hfield => ih field hfield (Nat.le_of_succ_le_succ hdepth)

end Plain

/-- A text that starts neither with a gap nor with the end of an array. -/
def StartsValue (t : Text) : Prop :=
  ∃ c more, t = c :: more ∧ isGap c = false ∧ c ≠ ']' ∧ c.val < 0x80

/-- What is written for a value is read as that value, if no numeral could go on behind it. -/
def ReadsBack (style : Style) (depth : Nat) (value : Json) : Prop :=
  StartsValue (write style value) ∧ ∀ fuel position rest, EndsNumeral rest →
    (write style value).length ≤ fuel →
    Gives (valueAt fuel depth position (write style value ++ rest)) value rest

theorem StartsValue.append {t : Text} (ht : StartsValue t) (rest : Text) :
    StartsValue (t ++ rest) := by
  obtain ⟨c, more, rfl, hgap, hend⟩ := ht
  exact ⟨c, more ++ rest, rfl, hgap, hend⟩

theorem StartsValue.skipGaps {t gaps : Text} (ht : StartsValue t)
    (hgaps : ∀ c ∈ gaps, isGap c = true) (position : Nat) :
    skipGaps position (gaps ++ t) = (position + gaps.length, t) := by
  obtain ⟨c, more, rfl, hgap, -⟩ := ht
  rw [skipGaps_gaps hgaps, skipGaps_of_not_gap hgap]

section Written

variable (style : Style) (rest : Text)

theorem writeText_append (t : Text) :
    writeText style t ++ rest =
      ('"' : CodePoint) :: (t.flatMap (escaped style.keepsWide) ++ ('"' : CodePoint) :: rest) := by
  simp [writeText]

theorem write_text (t : Text) : write style (.text t) = writeText style t := rfl

theorem write_array_append (items : List Json) :
    write style (.array items) ++ rest =
      ('[' : CodePoint) :: (writeItems style items ++ (']' : CodePoint) :: rest) :=
  congrArg (('[' : CodePoint) :: ·) (List.append_assoc ..)

theorem write_object_append (fields : List (Text × Json)) :
    write style (.object fields) ++ rest =
      ('\x7b' : CodePoint) :: (writeFields style fields ++ ('\x7d' : CodePoint) :: rest) :=
  congrArg (('\x7b' : CodePoint) :: ·) (List.append_assoc ..)

theorem writeItems_cons (item next : Json) (items : List Json) :
    writeItems style (item :: next :: items) =
      write style item ++ (style.comma ++ writeItems style (next :: items)) :=
  List.append_assoc ..

theorem writeFields_one (name : Text) (value : Json) :
    writeFields style [(name, value)] =
      writeText style name ++ (style.colon ++ write style value) :=
  List.append_assoc ..

theorem writeFields_cons (name : Text) (value : Json) (next : Text × Json)
    (fields : List (Text × Json)) :
    writeFields style ((name, value) :: next :: fields) =
      writeText style name ++ (style.colon ++
        (write style value ++ (style.comma ++ writeFields style (next :: fields)))) := by
  simp only [← List.append_assoc]
  rfl

theorem writeFields_eq_quote {fields : List (Text × Json)} (hne : fields ≠ []) :
    ∃ more, writeFields style fields = ('"' : CodePoint) :: more := by
  match fields with
  | [] => exact absurd rfl hne
  | [(name, value)] =>
    rw [writeFields_one, writeText_append]
    exact ⟨_, rfl⟩
  | (name, value) :: next :: fields =>
    rw [writeFields_cons, writeText_append]
    exact ⟨_, rfl⟩

end Written

section Values

variable {style : Style} {depth : Nat}

theorem ReadsBack.text {t : Text} (ht : style.Spells t) : ReadsBack style depth (.text t) := by
  constructor
  · exact ⟨'"', _, rfl, by decide, by decide, by decide⟩
  · intro fuel position rest _ hfuel
    cases fuel with
    | zero => exact absurd hfuel (Nat.not_succ_le_zero _)
    | succ fuel =>
      obtain ⟨position', hread⟩ := ht position (position + 1) rest
      refine ⟨position', ?_⟩
      rw [write_text, writeText_append, valueAt.eq_def]
      simp only [if_true, hread, Except.map]

theorem startsValue_writeItems {items : List Json} (hne : items ≠ [])
    (hitems : ∀ item ∈ items, ReadsBack style depth item) :
    StartsValue (writeItems style items) := by
  match items with
  | [] => exact absurd rfl hne
  | [item] => exact (hitems item List.mem_cons_self).1
  | item :: next :: items =>
    rw [writeItems_cons]
    exact (hitems item List.mem_cons_self).1.append _

theorem putField_of_new {fields : List (Text × Json)} {name : Text} {value : Json}
    (h : name ∉ fields.map Prod.fst) : putField fields name value = fields ++ [(name, value)] := by
  rw [putField, if_neg]
  simpa using h

/-- The last item of an array. -/
theorem itemsAt_last {item : Json} (hitem : ReadsBack style depth item) {fuel : Nat}
    (hfuel : (write style item).length ≤ fuel) (position : Nat) (done : List Json) (rest : Text) :
    Gives (itemsAt (fuel + 1) depth position done (write style item ++ (']' : CodePoint) :: rest))
      (.array (item :: done).reverse) rest := by
  obtain ⟨position', hread⟩ := hitem.2 fuel position ((']' : CodePoint) :: rest)
    (endsNumeral_cons (by decide) rest) hfuel
  refine ⟨position' + 1, ?_⟩
  rw [itemsAt, hread]
  simp only [skipGaps_of_not_gap (show isGap ']' = false by decide), if_true]

/-- An item of an array with another one behind it. -/
theorem itemsAt_more (hstyle : style.Legible) {item : Json} (hitem : ReadsBack style depth item)
    {fuel : Nat} (hfuel : (write style item).length ≤ fuel) (position : Nat) (done : List Json)
    {t : Text} (ht : StartsValue t) :
    ∃ position', itemsAt (fuel + 1) depth position done (write style item ++ (style.comma ++ t)) =
      itemsAt fuel depth position' (item :: done) t := by
  obtain ⟨gaps, hcomma, hgaps⟩ := hstyle.comma
  obtain ⟨position', hread⟩ := hitem.2 fuel position ((',' : CodePoint) :: (gaps ++ t))
    (endsNumeral_cons (by decide) _) hfuel
  refine ⟨position' + 1 + gaps.length, ?_⟩
  rw [hcomma, List.cons_append, itemsAt, hread]
  simp only [skipGaps_of_not_gap (show isGap ',' = false by decide), ht.skipGaps hgaps,
    if_neg (show (',' : CodePoint) ≠ ']' by decide), if_true]

/-- The items of an array are read one after the other. -/
theorem itemsAt_writeItems (hstyle : style.Legible) {items : List Json} (hne : items ≠ [])
    (hitems : ∀ item ∈ items, ReadsBack style depth item) (rest : Text) :
    ∀ fuel position done, (writeItems style items).length < fuel →
      Gives (itemsAt fuel depth position done (writeItems style items ++ (']' : CodePoint) :: rest))
        (.array (done.reverse ++ items)) rest := by
  induction items with
  | nil => exact absurd rfl hne
  | cons item items ih =>
    obtain ⟨hitem, hitems⟩ := List.forall_mem_cons.mp hitems
    intro fuel position done hfuel
    obtain _ | fuel := fuel
    · exact absurd hfuel (Nat.not_lt_zero _)
    cases items with
    | nil =>
      rw [← List.reverse_cons]
      exact itemsAt_last hitem (Nat.le_of_lt_succ hfuel) position done rest
    | cons next items =>
      have hmark := hstyle.comma.length_pos
      have hstart := (startsValue_writeItems (List.cons_ne_nil next items) hitems).append
        ((']' : CodePoint) :: rest)
      rw [writeItems_cons] at hfuel ⊢
      simp only [List.length_append] at hfuel
      have hlength : (write style item).length ≤ fuel := by omega
      obtain ⟨position', hstep⟩ := itemsAt_more hstyle hitem hlength position done hstart
      simp only [List.append_assoc, hstep]
      have hmore := ih (List.cons_ne_nil _ _) hitems fuel position' (item :: done) (by omega)
      simpa using hmore

/-- The last field of an object. -/
theorem fieldsAt_last (hstyle : style.Legible) {name : Text} {value : Json}
    (hname : style.Spells name) (hvalue : ReadsBack style depth value) {fuel : Nat}
    (hfuel : (write style value).length ≤ fuel) (position : Nat) (done : List (Text × Json))
    (rest : Text) :
    Gives (fieldsAt (fuel + 1) depth position done
        (writeText style name ++
          (style.colon ++ (write style value ++ ('\x7d' : CodePoint) :: rest))))
      (.object (putField done name value)) rest := by
  obtain ⟨gaps, hcolon, hgaps⟩ := hstyle.colon
  have hstart := hvalue.1.append (('\x7d' : CodePoint) :: rest)
  obtain ⟨position₁, hstring⟩ := hname position (position + 1)
    ((':' : CodePoint) :: (gaps ++ (write style value ++ ('\x7d' : CodePoint) :: rest)))
  obtain ⟨position₂, hread⟩ := hvalue.2 fuel (position₁ + 1 + gaps.length)
    (('\x7d' : CodePoint) :: rest) (endsNumeral_cons (by decide) rest) hfuel
  refine ⟨position₂ + 1, ?_⟩
  rw [hcolon, List.cons_append, writeText_append, fieldsAt]
  simp only [if_true, hstring, skipGaps_of_not_gap (show isGap ':' = false by decide),
    hstart.skipGaps hgaps, hread, skipGaps_of_not_gap (show isGap '\x7d' = false by decide)]

/-- A field of an object with another one behind it. -/
theorem fieldsAt_more (hstyle : style.Legible) {name : Text} {value : Json}
    (hname : style.Spells name) (hvalue : ReadsBack style depth value) {fuel : Nat}
    (hfuel : (write style value).length ≤ fuel) (position : Nat) (done : List (Text × Json))
    {t : Text} (ht : StartsValue t) :
    ∃ position', fieldsAt (fuel + 1) depth position done
        (writeText style name ++ (style.colon ++ (write style value ++ (style.comma ++ t)))) =
      fieldsAt fuel depth position' (putField done name value) t := by
  obtain ⟨gaps, hcolon, hgaps⟩ := hstyle.colon
  obtain ⟨gaps', hcomma, hgaps'⟩ := hstyle.comma
  have hstart := hvalue.1.append ((',' : CodePoint) :: (gaps' ++ t))
  obtain ⟨position₁, hstring⟩ := hname position (position + 1)
    ((':' : CodePoint) :: (gaps ++ (write style value ++ (',' : CodePoint) :: (gaps' ++ t))))
  obtain ⟨position₂, hread⟩ := hvalue.2 fuel (position₁ + 1 + gaps.length)
    ((',' : CodePoint) :: (gaps' ++ t)) (endsNumeral_cons (by decide) _) hfuel
  refine ⟨position₂ + 1 + gaps'.length, ?_⟩
  rw [hcolon, hcomma, List.cons_append, List.cons_append, writeText_append, fieldsAt]
  simp only [if_true, hstring, skipGaps_of_not_gap (show isGap ':' = false by decide),
    hstart.skipGaps hgaps, hread, skipGaps_of_not_gap (show isGap ',' = false by decide),
    ht.skipGaps hgaps', if_neg (show (',' : CodePoint) ≠ '\x7d' by decide)]

/-- The fields of an object are read one after the other. -/
theorem fieldsAt_writeFields (hstyle : style.Legible) {fields : List (Text × Json)}
    (hne : fields ≠ []) (hnames : ∀ field ∈ fields, style.Spells field.1)
    (hvalues : ∀ field ∈ fields, ReadsBack style depth field.2) (rest : Text) :
    ∀ fuel position done, ((done ++ fields).map Prod.fst).Nodup →
      (writeFields style fields).length < fuel →
      Gives (fieldsAt fuel depth position done
        (writeFields style fields ++ ('\x7d' : CodePoint) :: rest))
        (.object (done ++ fields)) rest := by
  induction fields with
  | nil => exact absurd rfl hne
  | cons field fields ih =>
    obtain ⟨name, value⟩ := field
    obtain ⟨hname, hnames⟩ := List.forall_mem_cons.mp hnames
    obtain ⟨(hvalue : ReadsBack style depth value), hvalues⟩ := List.forall_mem_cons.mp hvalues
    intro fuel position done hdistinct hfuel
    have hput : putField done name value = done ++ [(name, value)] := by
      refine putField_of_new fun hmem => ?_
      rw [List.map_append, List.nodup_append] at hdistinct
      exact hdistinct.2.2 name hmem name (by simp) rfl
    obtain _ | fuel := fuel
    · exact absurd hfuel (Nat.not_lt_zero _)
    cases fields with
    | nil =>
      rw [writeFields_one] at hfuel ⊢
      simp only [List.length_append] at hfuel
      rw [← hput, List.append_assoc, List.append_assoc]
      exact fieldsAt_last hstyle hname hvalue (by omega) position done rest
    | cons next fields =>
      have hmark := hstyle.comma.length_pos
      obtain ⟨more, hquote⟩ := writeFields_eq_quote style (List.cons_ne_nil next fields)
      have hstart : StartsValue
          (writeFields style (next :: fields) ++ ('\x7d' : CodePoint) :: rest) := by
        rw [hquote]
        exact ⟨_, _, rfl, by decide, by decide, by decide⟩
      rw [writeFields_cons] at hfuel ⊢
      simp only [List.length_append] at hfuel
      have hlength : (write style value).length ≤ fuel := by omega
      obtain ⟨position', hstep⟩ := fieldsAt_more hstyle hname hvalue hlength position done hstart
      have hmore := ih (List.cons_ne_nil _ _) hnames hvalues fuel position'
        (done ++ [(name, value)]) (by simpa using hdistinct) (by omega)
      simp only [List.append_assoc, hstep, hput]
      simpa using hmore

end Values

theorem ReadsBack.array {style : Style} {depth : Nat} (hstyle : style.Legible) {items : List Json}
    (hitems : ∀ item ∈ items, ReadsBack style depth item) :
    ReadsBack style (depth + 1) (.array items) := by
  refine ⟨⟨'[', _, rfl, by decide, by decide, by decide⟩, ?_⟩
  intro fuel position rest _ hfuel
  obtain _ | fuel := fuel
  · exact absurd hfuel (Nat.not_succ_le_zero _)
  have hlength := congrArg List.length (write_array_append style [] items)
  simp only [List.append_nil, List.length_cons, List.length_append] at hlength
  rw [write_array_append, valueAt.eq_def]
  by_cases hne : items = []
  · subst hne
    refine ⟨position + 1 + 1, ?_⟩
    simp only [show writeItems style [] = [] from rfl, List.nil_append,
      skipGaps_of_not_gap (show isGap ']' = false by decide),
      if_neg (show ('[' : CodePoint) ≠ '"' by decide), if_true]
  · obtain ⟨c, more, hstart, hgap, hend, -⟩ := (startsValue_writeItems hne hitems).append
      ((']' : CodePoint) :: rest)
    have hread := itemsAt_writeItems hstyle hne hitems rest fuel (position + 1) [] (by omega)
    rw [hstart] at hread ⊢
    simp only [skipGaps_of_not_gap hgap, if_neg (show ('[' : CodePoint) ≠ '"' by decide), if_true,
      if_neg hend]
    exact hread

theorem ReadsBack.object {style : Style} {depth : Nat} (hstyle : style.Legible)
    {fields : List (Text × Json)} (hnames : ∀ field ∈ fields, style.Spells field.1)
    (hdistinct : (fields.map Prod.fst).Nodup)
    (hvalues : ∀ field ∈ fields, ReadsBack style depth field.2) :
    ReadsBack style (depth + 1) (.object fields) := by
  refine ⟨⟨'\x7b', _, rfl, by decide, by decide, by decide⟩, ?_⟩
  intro fuel position rest _ hfuel
  obtain _ | fuel := fuel
  · exact absurd hfuel (Nat.not_succ_le_zero _)
  have hlength := congrArg List.length (write_object_append style [] fields)
  simp only [List.append_nil, List.length_cons, List.length_append] at hlength
  rw [write_object_append, valueAt.eq_def]
  by_cases hne : fields = []
  · subst hne
    refine ⟨position + 1 + 1, ?_⟩
    simp only [show writeFields style [] = [] from rfl, List.nil_append,
      skipGaps_of_not_gap (show isGap '\x7d' = false by decide),
      if_neg (show ('\x7b' : CodePoint) ≠ '"' by decide),
      if_neg (show ('\x7b' : CodePoint) ≠ '[' by decide), if_true]
  · obtain ⟨more, hquote⟩ := writeFields_eq_quote style hne
    have hread := fieldsAt_writeFields hstyle hne hnames hvalues rest fuel (position + 1) []
      (by simpa using hdistinct) (by omega)
    rw [hquote, List.cons_append] at hread ⊢
    simp only [skipGaps_of_not_gap (show isGap '"' = false by decide),
      if_neg (show ('\x7b' : CodePoint) ≠ '"' by decide),
      if_neg (show ('\x7b' : CodePoint) ≠ '[' by decide), if_true,
      if_neg (show ('"' : CodePoint) ≠ '\x7d' by decide)]
    exact hread

/-- A word or a number stands where no string, array or object starts. -/
theorem valueAt_scalar {fuel depth position : Nat} {c : CodePoint} {rest : Text}
    (hquote : c ≠ ('"' : CodePoint)) (hbracket : c ≠ ('[' : CodePoint))
    (hbrace : c ≠ ('\x7b' : CodePoint)) :
    valueAt (fuel + 1) depth position (c :: rest) = scalarAt position (c :: rest) := by
  rw [valueAt.eq_def]
  simp only [if_neg hquote, if_neg hbracket, if_neg hbrace]

/-- What the reader takes for a word or a number is read back, if it starts like neither. -/
theorem ReadsBack.scalar {style : Style} {depth : Nat} {value : Json} {c : CodePoint} {more : Text}
    (hwritten : write style value = c :: more)
    (hstart : isGap c = false ∧ c ≠ ']' ∧ c.val < 0x80)
    (hopen : c ≠ ('"' : CodePoint) ∧ c ≠ ('[' : CodePoint) ∧ c ≠ ('\x7b' : CodePoint))
    (hread : ∀ position rest, EndsNumeral rest →
      Gives (scalarAt position (c :: more ++ rest)) value rest) :
    ReadsBack style depth value := by
  refine ⟨⟨c, more, hwritten, hstart⟩, fun fuel position rest hrest hfuel => ?_⟩
  rw [hwritten] at hfuel ⊢
  obtain _ | fuel := fuel
  · exact absurd hfuel (Nat.not_succ_le_zero _)
  · rw [List.cons_append, valueAt_scalar hopen.1 hopen.2.1 hopen.2.2]
    exact hread position rest hrest

theorem ReadsBack.null {style : Style} {depth : Nat} : ReadsBack style depth .null :=
  .scalar (c := 'n') rfl (by decide) (by decide) fun position rest _ =>
    ⟨_, scalarAt_word [] rfl nofun position rest⟩

theorem ReadsBack.bool {style : Style} {depth : Nat} (b : Bool) :
    ReadsBack style depth (.bool b) := by
  cases b with
  | false =>
    exact .scalar (c := 'f') rfl (by decide) (by decide) fun position rest _ =>
      ⟨_, scalarAt_word (words.take 2) rfl (by decide) position rest⟩
  | true =>
    exact .scalar (c := 't') rfl (by decide) (by decide) fun position rest _ =>
      ⟨_, scalarAt_word (words.take 1) rfl (by decide) position rest⟩

theorem ReadsBack.integer {style : Style} {depth : Nat} {i : Int}
    (hi : i.natAbs < 10 ^ Number.digitLimit) : ReadsBack style depth (.integer i) := by
  obtain ⟨c, more, hwritten, hc⟩ := exists_head_ofInt i
  have hne {d : CodePoint} (hd : d ≠ ('-' : CodePoint) ∧ d.isDigit = false) : c ≠ d := by
    rintro rfl
    simp [hd] at hc
  have hgap : isGap c = false := by
    rcases hc with rfl | hc
    · decide
    · exact isGap_of_isDigit hc
  have hascii : c.val < 0x80 := by
    rcases hc with rfl | hc
    · decide
    · simp only [CodePoint.isDigit, Bool.and_eq_true, decide_eq_true_eq] at hc
      omega
  refine .scalar hwritten ⟨hgap, hne (by decide), hascii⟩
    ⟨hne (by decide), hne (by decide), hne (by decide)⟩ fun position rest hrest => ?_
  rw [← hwritten]
  exact ⟨_, scalarAt_ofInt hi hrest position⟩

theorem Plain.readsBack {style : Style} (hstyle : style.Legible) {depth : Nat} {value : Json}
    (h : Plain style.Spells depth value) : ReadsBack style depth value := by
  induction h with
  | null => exact .null
  | bool b => exact .bool b
  | integer hi => exact .integer hi
  | text ht => exact .text ht
  | array _ ih => exact .array hstyle ih
  | object hnames hdistinct _ ih => exact .object hstyle hnames hdistinct ih

/-! ## Whole texts -/

/-- `read`, with another limit for arrays and objects inside one another. -/
def readWithin (limit : Nat) (t : Text) : Except ReadFault Json :=
  if t.head? = some (CodePoint.ofNat 0xFEFF) then
    .error (.malformed "Unexpected UTF-8 BOM (decode using utf-8-sig)" 0)
  else
    let (position, start) := skipGaps 0 t
    match valueAt (t.length + 1) limit position start with
    | .error fault => .error fault
    | .ok (value, position, rest) =>
      match skipGaps position rest with
      | (_, []) => .ok value
      | (position, _ :: _) => .error (.malformed "Extra data" position)

theorem readWithin_depthLimit (t : Text) : readWithin depthLimit t = read t := rfl

/-- A value that was written is read as that value. -/
theorem readWithin_write {style : Style} (hstyle : style.Legible) {limit : Nat} {value : Json}
    (h : Plain style.Spells limit value) : readWithin limit (write style value) = .ok value := by
  obtain ⟨⟨c, more, hstart, hgap, -, hascii⟩, hread⟩ := h.readsBack hstyle
  obtain ⟨position, hread⟩ :=
    hread ((write style value).length + 1) 0 [] endsNumeral_nil (Nat.le_succ _)
  rw [List.append_nil] at hread
  rw [hstart] at hread ⊢
  have hmark : c ≠ CodePoint.ofNat 0xFEFF := by
    rintro rfl
    exact absurd hascii (by decide)
  rw [readWithin, List.head?_cons, if_neg (by simpa using hmark)]
  simp only [skipGaps_of_not_gap hgap, hread]
  rfl

end ProseCompiler.Json
