import ProseCompiler.Proofs.Json.RoundTrip

/-!
# ASCII lines

In the ASCII style every code point of a string that is not printable ASCII is escaped, and the
marks, the words and the numerals are printable themselves.  So what is written for a value is a
single line of ASCII, whatever its strings hold: `Plain.isPrintableAscii`.

A writer with bounds writes the same, if it has room for the value: `Plain.writeWithin`.
-/

namespace ProseCompiler

namespace Text

/-- Only the printable characters of ASCII: no line break, and no other control character. -/
def IsPrintableAscii (t : Text) : Prop := ∀ c ∈ t, 0x20 ≤ c.val ∧ c.val < 0x7F

instance (t : Text) : Decidable t.IsPrintableAscii :=
  inferInstanceAs (Decidable (∀ c ∈ t, 0x20 ≤ c.val ∧ c.val < 0x7F))

theorem isPrintableAscii_append {s t : Text} :
    (s ++ t).IsPrintableAscii ↔ s.IsPrintableAscii ∧ t.IsPrintableAscii :=
  List.forall_mem_append

theorem isPrintableAscii_digit {n : Nat} (hn : n < 16) :
    0x20 ≤ (digit n).val ∧ (digit n).val < 0x7F := by
  have hall : ∀ n < 16, 0x20 ≤ (digit n).val ∧ (digit n).val < 0x7F := by decide
  exact hall n hn

theorem isPrintableAscii_ofInt (i : Int) : (Number.ofInt i).IsPrintableAscii := by
  have hdigits : (ofNat i.natAbs).IsPrintableAscii := by
    intro c hc
    have hdigit := isDigit_of_mem_ofNat hc
    simp only [CodePoint.isDigit, Bool.and_eq_true, decide_eq_true_eq] at hdigit
    omega
  rw [Number.ofInt]
  split
  · exact List.forall_mem_cons.mpr ⟨by decide, hdigits⟩
  · exact hdigits

end Text

namespace Json

open Text (IsPrintableAscii isPrintableAscii_append)

variable {depth : Nat} {value : Json}

/-! ## Strings -/

theorem isPrintableAscii_numbered {n : Nat} (hn : n < 0x10000) :
    (numbered n).IsPrintableAscii := by
  have hhex : (Text.hex 4 n).IsPrintableAscii := by
    rw [Text.hex_four hn]
    intro c hc
    simp only [List.mem_cons, List.not_mem_nil, or_false] at hc
    rcases hc with rfl | rfl | rfl | rfl <;> exact Text.isPrintableAscii_digit (by omega)
  exact isPrintableAscii_append.mpr ⟨by decide, hhex⟩

/-- The letters that escape something are printable. -/
theorem isPrintableAscii_of_escape? {e c : CodePoint} (h : escape? e = some c) :
    0x20 ≤ e.val ∧ e.val < 0x7F := by
  rw [escape?] at h
  split at h
  · next he => rcases he with rfl | rfl | rfl <;> decide
  repeat
    split at h
    · next he =>
      subst he
      decide
  cases h

theorem isPrintableAscii_escaped (c : CodePoint) : (escaped false c).IsPrintableAscii := by
  have hspelling := spelling_escaped false c
  generalize escaped false c = written at hspelling ⊢
  cases hspelling with
  | letter _ he =>
    intro d hd
    simp only [List.mem_cons, List.not_mem_nil, or_false] at hd
    rcases hd with rfl | rfl
    · decide
    · exact isPrintableAscii_of_escape? he
  | number hc => exact isPrintableAscii_numbered hc
  | plain _ _ hcontrol hwide =>
    intro d hd
    obtain rfl := List.mem_singleton.mp hd
    exact ⟨hcontrol, hwide rfl⟩
  | halves hc =>
    have hbound := c.isLt
    exact isPrintableAscii_append.mpr
      ⟨isPrintableAscii_numbered (by omega), isPrintableAscii_numbered (by omega)⟩

theorem isPrintableAscii_writeText (t : Text) : (writeText ascii t).IsPrintableAscii := by
  have hinside : IsPrintableAscii (t.flatMap (escaped false)) := by
    intro c hc
    obtain ⟨d, -, hc⟩ := List.mem_flatMap.mp hc
    exact isPrintableAscii_escaped d c hc
  exact isPrintableAscii_append.mpr
    ⟨isPrintableAscii_append.mpr ⟨by decide, hinside⟩, by decide⟩

/-! ## Values -/

theorem isPrintableAscii_writeItems {items : List Json}
    (hitems : ∀ item ∈ items, (write ascii item).IsPrintableAscii) :
    (writeItems ascii items).IsPrintableAscii := by
  induction items with
  | nil => decide
  | cons item items ih =>
    obtain ⟨hitem, hitems⟩ := List.forall_mem_cons.mp hitems
    cases items with
    | nil => exact hitem
    | cons next items =>
      rw [writeItems_cons]
      exact isPrintableAscii_append.mpr
        ⟨hitem, isPrintableAscii_append.mpr ⟨by decide, ih hitems⟩⟩

theorem isPrintableAscii_writeFields {fields : List (Text × Json)}
    (hvalues : ∀ field ∈ fields, (write ascii field.2).IsPrintableAscii) :
    (writeFields ascii fields).IsPrintableAscii := by
  induction fields with
  | nil => decide
  | cons field fields ih =>
    obtain ⟨name, value⟩ := field
    obtain ⟨hvalue, hvalues⟩ := List.forall_mem_cons.mp hvalues
    have hname := isPrintableAscii_writeText name
    have hcolon : ascii.colon.IsPrintableAscii := by decide
    have hcomma : ascii.comma.IsPrintableAscii := by decide
    cases fields with
    | nil =>
      rw [writeFields_one]
      simp only [isPrintableAscii_append]
      exact ⟨hname, hcolon, hvalue⟩
    | cons next fields =>
      rw [writeFields_cons]
      simp only [isPrintableAscii_append]
      exact ⟨hname, hcolon, hvalue, hcomma, ih hvalues⟩

/-- What is written in the ASCII style is one line of ASCII. -/
theorem Plain.isPrintableAscii {IsText : Text → Prop} (h : Plain IsText depth value) :
    (write ascii value).IsPrintableAscii := by
  induction h with
  | null => decide
  | bool b => cases b <;> decide
  | integer => exact Text.isPrintableAscii_ofInt _
  | text => exact isPrintableAscii_writeText _
  | array _ ih =>
    exact isPrintableAscii_append.mpr
      ⟨isPrintableAscii_append.mpr ⟨by decide, isPrintableAscii_writeItems ih⟩, by decide⟩
  | object _ _ _ ih =>
    exact isPrintableAscii_append.mpr
      ⟨isPrintableAscii_append.mpr ⟨by decide, isPrintableAscii_writeFields ih⟩, by decide⟩

/-! ## Bounds -/

theorem hindranceInItems?_eq_none_iff {items : List Json} :
    hindranceInItems? depth items = none ↔ ∀ item ∈ items, hindrance? depth item = none := by
  induction items with
  | nil => simp [hindranceInItems?]
  | cons item items ih => simp [hindranceInItems?, ih]

theorem hindranceInFields?_eq_none_iff {fields : List (Text × Json)} :
    hindranceInFields? depth fields = none ↔
      ∀ field ∈ fields, hindrance? depth field.2 = none := by
  induction fields with
  | nil => simp [hindranceInFields?]
  | cons field fields ih => simp [hindranceInFields?, ih]

theorem Plain.hindrance? {IsText : Text → Prop} (h : Plain IsText depth value) :
    hindrance? depth value = none := by
  induction h with
  | null | bool | text => rw [Json.hindrance?] <;> simp
  | integer hi =>
    have hlength := (Text.length_ofNat_le_iff (by decide)).mpr hi
    rw [Json.hindrance?, if_neg (Nat.not_lt.mpr hlength)]
  | array _ ih => exact hindranceInItems?_eq_none_iff.mpr ih
  | object _ _ _ ih => exact hindranceInFields?_eq_none_iff.mpr ih

/-- A writer with room for a value writes it as one without bounds. -/
theorem Plain.writeWithin {IsText : Text → Prop} {limit : Nat} (h : Plain IsText limit value)
    (style : Style) : writeWithin limit style value = .ok (write style value) := by
  rw [Json.writeWithin, h.hindrance?]

/-- A writer with bounds writes what one without bounds writes, or nothing. -/
theorem eq_of_writeWithin {limit : Nat} {style : Style} {t : Text}
    (h : writeWithin limit style value = .ok t) : t = write style value := by
  rw [writeWithin] at h
  split at h
  · cases h
  · exact (Except.ok.inj h).symm

end Json

end ProseCompiler
