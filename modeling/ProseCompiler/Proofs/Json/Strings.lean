import ProseCompiler.Json.Reader
import ProseCompiler.Json.Writer
import ProseCompiler.Proofs.Number.Numerals
import ProseCompiler.Proofs.Text.Surrogates

/-!
# Strings, written and read back

`stringFrom_escaped` is the round trip of one code point inside a string, whatever it is and in
either style; texts follow by induction (`Style.spells`).

Where code points beyond ASCII are escaped, one beyond the first plane becomes the two halves of a
surrogate pair, and the reader puts the halves of a pair together again.  So a text comes back as
it was if it has no such pair itself.  A first half that stands alone has to look ahead for
that: what is written behind it is not taken for a second half (`NoLowHalf`).
-/

namespace ProseCompiler.Json

/-- A reading that succeeds with a value and leaves `rest` behind it. -/
def Gives {α : Type} (reading : Read α) (value : α) (rest : Text) : Prop :=
  ∃ position, reading = .ok (value, position, rest)

/-! ## Escapes by number -/

/-- Four hexadecimal digits are read as the number that they are written for. -/
theorem hex4?_hex {n : Nat} (hn : n < 0x10000) :
    ∃ a b c d, Text.hex 4 n = [a, b, c, d] ∧ hex4? a b c d = some n := by
  have hdigit : ∀ k < 16, hexDigit? (Text.digit k) = some k := by decide
  refine ⟨_, _, _, _, Text.hex_four hn, ?_⟩
  rw [hex4?, hdigit _ (by omega), hdigit _ (by omega), hdigit _ (by omega), hdigit _ (by omega)]
  simp only [Option.some.injEq]
  omega

/-- What stands behind an escape is not the second half of a surrogate pair. -/
def NoLowHalf (t : Text) : Prop :=
  ∀ a b c d more, t = ('\\' : CodePoint) :: ('u' : CodePoint) :: a :: b :: c :: d :: more →
    ∃ n, hex4? a b c d = some n ∧ ¬(0xDC00 ≤ n ∧ n < 0xE000)

theorem noLowHalf_of_head {c : CodePoint} (hc : c ≠ ('\\' : CodePoint)) (t : Text) :
    NoLowHalf (c :: t) := by
  intro _ _ _ _ _ heq
  exact absurd (List.cons.inj heq).1 hc

theorem noLowHalf_of_escape {e : CodePoint} (he : e ≠ ('u' : CodePoint)) (t : Text) :
    NoLowHalf (('\\' : CodePoint) :: e :: t) := by
  intro _ _ _ _ _ heq
  exact absurd (List.cons.inj (List.cons.inj heq).2).1 he

/-- An escape by the number of another code point is none of a second half. -/
theorem noLowHalf_numbered {n : Nat} (hn : n < 0x10000) (hlow : ¬(0xDC00 ≤ n ∧ n < 0xE000))
    (t : Text) : NoLowHalf (numbered n ++ t) := by
  obtain ⟨a, b, c, d, hhex, hread⟩ := hex4?_hex hn
  rw [numbered, hhex]
  intro _ _ _ _ _ heq
  cases heq
  exact ⟨n, hread, hlow⟩

section Escapes

variable {position n m : Nat} {a b c d e f g h : CodePoint} {rest : Text}

theorem numberedEscape_single (hn : hex4? a b c d = some n) (hrest : rest ≠ [])
    (hhalf : 0xD800 ≤ n → n < 0xDC00 → NoLowHalf rest) :
    numberedEscape position (a :: b :: c :: d :: rest) = .ok (CodePoint.ofNat n, 6) := by
  rw [numberedEscape, hn]
  simp only
  split
  · exact absurd rfl hrest
  · split
    · next hpair =>
      obtain ⟨hhigh, hlow, rfl, rfl⟩ := hpair
      obtain ⟨m, hm, hother⟩ := hhalf hhigh hlow _ _ _ _ _ rfl
      simp only [hm, if_neg hother]
    · rfl
  · rfl

theorem numberedEscape_pair (hn : hex4? a b c d = some n) (hm : hex4? e f g h = some m)
    (hhigh : 0xD800 ≤ n ∧ n < 0xDC00) (hlow : 0xDC00 ≤ m ∧ m < 0xE000) (hrest : rest ≠ []) :
    numberedEscape position
        (a :: b :: c :: d :: ('\\' : CodePoint) :: ('u' : CodePoint) :: e :: f :: g :: h :: rest) =
      .ok (paired n m, 12) := by
  obtain ⟨next, more, rfl⟩ := List.exists_cons_of_ne_nil hrest
  rw [numberedEscape, hn]
  simp only [hm, if_pos hlow, hhigh.1, hhigh.2, and_self, if_true]

end Escapes

/-! ## One code point -/

section Strings

variable (start position : Nat) (done : Text) {rest : Text} {c e x : CodePoint}

theorem stringFrom_plain (hquote : c ≠ ('"' : CodePoint)) (hbackslash : c ≠ ('\\' : CodePoint))
    (hcontrol : 0x20 ≤ c.val) :
    stringFrom start position done 0 (c :: rest) =
      stringFrom start (position + 1) (c :: done) 0 rest := by
  rw [stringFrom.eq_def]
  simp only [if_neg hquote, if_neg (Nat.not_lt.mpr hcontrol), if_neg hbackslash]

theorem stringFrom_escape (he : e ≠ ('u' : CodePoint)) (hx : escape? e = some x) :
    stringFrom start position done 0 (('\\' : CodePoint) :: e :: rest) =
      stringFrom start (position + 2) (x :: done) 0 rest := by
  rw [stringFrom, if_neg (by decide), if_neg (by decide), if_pos rfl]
  simp only [if_neg he, hx]
  rw [stringFrom]

theorem stringFrom_numbered {n : Nat} (hn : n < 0x10000) (hrest : rest ≠ [])
    (hhalf : 0xD800 ≤ n → n < 0xDC00 → NoLowHalf rest) :
    stringFrom start position done 0 (numbered n ++ rest) =
      stringFrom start (position + 6) (CodePoint.ofNat n :: done) 0 rest := by
  obtain ⟨a, b, c, d, hhex, hread⟩ := hex4?_hex hn
  have htext : numbered n ++ rest =
      ('\\' : CodePoint) :: ('u' : CodePoint) :: a :: b :: c :: d :: rest := by
    rw [numbered, hhex]
    rfl
  rw [htext, stringFrom, if_neg (by decide), if_neg (by decide), if_pos rfl]
  simp only [if_true, numberedEscape_single hread hrest hhalf]
  simp only [Nat.add_one_sub_one, stringFrom]

theorem stringFrom_pair {n m : Nat} (hhigh : 0xD800 ≤ n ∧ n < 0xDC00)
    (hlow : 0xDC00 ≤ m ∧ m < 0xE000) (hrest : rest ≠ []) :
    stringFrom start position done 0 (numbered n ++ numbered m ++ rest) =
      stringFrom start (position + 12) (paired n m :: done) 0 rest := by
  obtain ⟨a, b, c, d, hhex, hread⟩ := hex4?_hex (n := n) (by omega)
  obtain ⟨e, f, g, h, hhex', hread'⟩ := hex4?_hex (n := m) (by omega)
  have htext : numbered n ++ numbered m ++ rest =
      ('\\' : CodePoint) :: ('u' : CodePoint) :: a :: b :: c :: d :: ('\\' : CodePoint) ::
        ('u' : CodePoint) :: e :: f :: g :: h :: rest := by
    rw [numbered, numbered, hhex, hhex']
    rfl
  rw [htext, stringFrom, if_neg (by decide), if_neg (by decide), if_pos rfl]
  simp only [if_true, numberedEscape_pair hread hread' hhigh hlow hrest]
  simp only [Nat.add_one_sub_one, stringFrom]

/-- The ways in which a code point is written: escaped by a letter, escaped by number, as itself,
or as the halves of a pair. -/
inductive Spelling (wide : Bool) (c : CodePoint) : Text → Prop
  | letter {e : CodePoint} (he : e ≠ ('u' : CodePoint)) (hc : escape? e = some c) :
      Spelling wide c [('\\' : CodePoint), e]
  | number (hc : c.val < 0x10000) (hwide : wide = true → c.val < 0x20) :
      Spelling wide c (numbered c.val)
  | plain (hquote : c ≠ ('"' : CodePoint)) (hbackslash : c ≠ ('\\' : CodePoint))
      (hcontrol : 0x20 ≤ c.val) (hwide : wide = false → c.val < 0x7F) : Spelling wide c [c]
  | halves (hc : 0x10000 ≤ c.val) (hwide : wide = false) :
      Spelling wide c (numbered (0xD800 + (c.val - 0x10000) / 0x400) ++
        numbered (0xDC00 + (c.val - 0x10000) % 0x400))

theorem spelling_escaped (wide : Bool) (c : CodePoint) : Spelling wide c (escaped wide c) := by
  rw [escaped]
  by_cases hquote : c = '"'
  · rw [if_pos hquote]
    exact .letter (by decide) (by rw [hquote]; decide)
  rw [if_neg hquote]
  by_cases hbackslash : c = '\\'
  · rw [if_pos hbackslash]
    exact .letter (by decide) (by rw [hbackslash]; decide)
  rw [if_neg hbackslash]
  by_cases hline : c = '\n'
  · rw [if_pos hline]
    exact .letter (e := 'n') (by decide) (by rw [hline]; decide)
  rw [if_neg hline]
  by_cases hreturn : c = '\r'
  · rw [if_pos hreturn]
    exact .letter (e := 'r') (by decide) (by rw [hreturn]; decide)
  rw [if_neg hreturn]
  by_cases htab : c = '\t'
  · rw [if_pos htab]
    exact .letter (e := 't') (by decide) (by rw [htab]; decide)
  rw [if_neg htab]
  by_cases hback : c.val = 8
  · rw [if_pos hback]
    exact .letter (e := 'b') (by decide) (congrArg some (CodePoint.ofNat_eq hback.symm))
  rw [if_neg hback]
  by_cases hfeed : c.val = 12
  · rw [if_pos hfeed]
    exact .letter (e := 'f') (by decide) (congrArg some (CodePoint.ofNat_eq hfeed.symm))
  rw [if_neg hfeed]
  by_cases hcontrol : c.val < 0x20
  · rw [if_pos hcontrol]
    exact .number (by omega) fun _ => hcontrol
  rw [if_neg hcontrol]
  by_cases hplain : c.val < 0x7F ∨ wide = true
  · rw [if_pos hplain]
    exact .plain hquote hbackslash (Nat.not_lt.mp hcontrol) fun hwide =>
      hplain.resolve_right (by simp [hwide])
  rw [if_neg hplain]
  have hwide : wide = false := by simpa using fun h => hplain (.inr h)
  by_cases hplane : c.val < 0x10000
  · rw [if_pos hplane]
    exact .number hplane fun h => absurd (.inr h) hplain
  · rw [if_neg hplane]
    exact .halves (Nat.not_lt.mp hplane) hwide

/-- What a first half of a surrogate pair could take for the second half is written for a second
half only. -/
theorem noLowHalf_escaped (wide : Bool) (hc : ¬c.IsLowHalf) (rest : Text) :
    NoLowHalf (escaped wide c ++ rest) := by
  have hspelling := spelling_escaped wide c
  generalize escaped wide c = written at hspelling ⊢
  cases hspelling with
  | letter he => exact noLowHalf_of_escape he rest
  | number hplane => exact noLowHalf_numbered hplane hc rest
  | plain _ hbackslash => exact noLowHalf_of_head hbackslash rest
  | halves hplane =>
    have hbound := c.isLt
    rw [List.append_assoc]
    exact noLowHalf_numbered (by omega) (by omega) _

/-- What stands for a code point is read as that code point, unless it is a first half of a
surrogate pair and what follows stands for a second half. -/
theorem stringFrom_escaped (wide : Bool) (hrest : rest ≠ [])
    (hhalf : wide = false → c.IsHighHalf → NoLowHalf rest) :
    ∃ position', stringFrom start position done 0 (escaped wide c ++ rest) =
      stringFrom start position' (c :: done) 0 rest := by
  have hspelling := spelling_escaped wide c
  generalize escaped wide c = written at hspelling ⊢
  cases hspelling with
  | letter he hc => exact ⟨_, stringFrom_escape start position done he hc⟩
  | number hplane hwide =>
    have hnext : 0xD800 ≤ c.val → c.val < 0xDC00 → NoLowHalf rest := by
      intro hhigh hlow
      cases wide with
      | false => exact hhalf rfl ⟨hhigh, hlow⟩
      | true => exact absurd (hwide rfl) (by omega)
    have hread := stringFrom_numbered start position done hplane hrest hnext
    rw [CodePoint.ofNat_eq rfl] at hread
    exact ⟨_, hread⟩
  | plain hquote hbackslash hcontrol =>
    exact ⟨_, stringFrom_plain start position done hquote hbackslash hcontrol⟩
  | halves hplane =>
    have hbound := c.isLt
    have hread := stringFrom_pair start position done
      (n := 0xD800 + (c.val - 0x10000) / 0x400) (m := 0xDC00 + (c.val - 0x10000) % 0x400)
      (by omega) (by omega) hrest
    rw [paired, CodePoint.ofNat_eq (c := c) (by omega)] at hread
    exact ⟨_, hread⟩

end Strings

/-! ## Texts -/

/-- A style whose strings spell a text in a way that the reader undoes. -/
def Style.Spells (style : Style) (t : Text) : Prop :=
  ∀ start position rest, Gives
    (stringFrom start position [] 0
      (t.flatMap (escaped style.keepsWide) ++ ('"' : CodePoint) :: rest))
    t rest

/-- Any text is spelled by a style that keeps wide code points, and a text without pairs of
surrogates by every style. -/
theorem Style.spells (style : Style) {t : Text} (ht : style.keepsWide = false → t.Unpaired) :
    style.Spells t := by
  intro start position rest
  suffices hmore : ∀ position done, Gives
      (stringFrom start position done 0
        (t.flatMap (escaped style.keepsWide) ++ ('"' : CodePoint) :: rest))
      (done.reverse ++ t) rest from hmore position []
  induction t with
  | nil =>
    intro position done
    refine ⟨position + 1, ?_⟩
    rw [List.flatMap_nil, List.nil_append, List.append_nil, stringFrom.eq_def]
    simp only [if_true]
  | cons c t ih =>
    intro position done
    have hhalf : style.keepsWide = false → c.IsHighHalf →
        NoLowHalf (t.flatMap (escaped style.keepsWide) ++ ('"' : CodePoint) :: rest) := by
      intro hwide hhigh
      have hnext := (Text.unpaired_cons_iff.mp (ht hwide)).1 hhigh
      cases t with
      | nil => exact noLowHalf_of_head (by decide) rest
      | cons d t =>
        rw [List.flatMap_cons, List.append_assoc]
        exact noLowHalf_escaped _ (hnext d rfl) _
    obtain ⟨position', hstep⟩ := stringFrom_escaped start position done style.keepsWide
      (List.append_ne_nil_of_right_ne_nil (t.flatMap (escaped style.keepsWide))
        (List.cons_ne_nil ('"' : CodePoint) rest)) hhalf
    rw [List.flatMap_cons, List.append_assoc, hstep]
    have hread := ih (fun hwide => (Text.unpaired_cons_iff.mp (ht hwide)).2) position' (c :: done)
    simpa using hread

theorem compact_spells (t : Text) : compact.Spells t := compact.spells nofun

theorem ascii_spells {t : Text} (ht : t.Unpaired) : ascii.Spells t := ascii.spells fun _ => ht

end ProseCompiler.Json
