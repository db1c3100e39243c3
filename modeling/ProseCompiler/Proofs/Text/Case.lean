import Mathlib.Data.List.DropRight
import ProseCompiler.Document.Language

/-!
# Trimmed texts and lower case

Trimming takes the blanks off the ends of a text (`blanks_around_trim`), so a text is trimmed
if neither of its ends is blank.  The lower-case form of a trimmed text is trimmed, since no
blank is the lower-case form of anything else.

Lower case is not shown to be idempotent in general.  What is shown is that a text in
lower case whose lower-case form is ASCII is that form already (`lower_eq_of_ascii`).
The known languages are ASCII, so reading a language twice gives the extension that
reading it once gives: `extension_normal`.
-/

namespace ProseCompiler

/-! ## Trimming -/

namespace Text

variable {s t : Text} {c : CodePoint}

/-- A text that starts with a blank is trimmed like what follows. -/
theorem trim_cons_blank (hc : c.isBlank = true) : trim (c :: t) = trim t := by
  rw [trim, trim, trimLeft, List.dropWhile_cons_of_pos hc, trimLeft]

/-- Nothing is trimmed off the start of a text if that is not blank. -/
theorem trimLeft_eq_self_iff : trimLeft t = t ↔ ∀ c, t.head? = some c → c.isBlank = false := by
  rw [trimLeft]
  cases t with
  | nil => simp
  | cons c t =>
    cases hc : c.isBlank with
    | false => simp [hc]
    | true =>
      have hshorter : (t.dropWhile CodePoint.isBlank).length ≤ t.length :=
        (List.dropWhile_sublist _).length_le
      rw [List.dropWhile_cons_of_pos hc]
      constructor
      · intro h
        rw [h, List.length_cons] at hshorter
        omega
      · intro h
        rw [h c rfl] at hc
        cases hc

/-- Nothing is trimmed off the end of a text if that is not blank. -/
theorem trimRight_eq_self_iff :
    trimRight t = t ↔ ∀ c, t.getLast? = some c → c.isBlank = false := by
  have hreverse : trimRight t = t ↔ trimLeft t.reverse = t.reverse := by
    rw [trimRight, trimLeft, List.reverse_eq_iff]
  rw [hreverse, trimLeft_eq_self_iff, List.head?_reverse]

/-- Whatever stands before the end of a text, the end decides what is trimmed there. -/
theorem trimRight_append (hne : t ≠ []) (ht : trimRight t = t) :
    trimRight (s ++ t) = s ++ t := by
  rw [trimRight_eq_self_iff] at ht ⊢
  intro c hc
  cases hlast : t.getLast? with
  | none => exact absurd (List.getLast?_eq_none_iff.mp hlast) hne
  | some last =>
    rw [List.getLast?_append, hlast, Option.some_or, Option.some.injEq] at hc
    exact hc ▸ ht last hlast

theorem trim_eq_self_iff : trim t = t ↔ trimLeft t = t ∧ trimRight t = t := by
  constructor
  · intro h
    have hleft : (trimLeft t).length ≤ t.length := (List.dropWhile_sublist _).length_le
    have hright : (trim t).length ≤ (trimLeft t).length := by
      rw [trim, trimRight, List.length_reverse, ← @List.length_reverse _ (trimLeft t)]
      exact (List.dropWhile_sublist _).length_le
    have hsame : trimLeft t = t := by
      refine (List.dropWhile_suffix _).eq_of_length ?_
      rw [h] at hright
      exact Nat.le_antisymm hleft hright
    rw [trim, hsame] at h
    exact ⟨hsame, h⟩
  · rintro ⟨hleft, hright⟩
    rw [trim, hleft, hright]

theorem trim_append_blanks {before core after : Text} (hbefore : ∀ c ∈ before, c.isBlank = true)
    (hafter : ∀ c ∈ after, c.isBlank = true) (hcore : trim core = core) :
    trim (before ++ core ++ after) = core := by
  obtain ⟨hleft, hright⟩ := trim_eq_self_iff.mp hcore
  have hstart : trimLeft (before ++ core ++ after) = trimLeft (core ++ after) := by
    rw [trimLeft, List.append_assoc, List.dropWhile_append_of_pos hbefore, trimLeft]
  have hblank : ∀ c ∈ after.reverse, c.isBlank = true := fun c hc =>
    hafter c (List.mem_reverse.mp hc)
  have hend : trimRight (core ++ after) = core := by
    rw [trimRight, List.reverse_append, List.dropWhile_append_of_pos hblank]
    exact hright
  cases core with
  | nil =>
    have hnone : trimLeft ([] ++ after) = [] := by
      rw [trimLeft, List.nil_append, List.dropWhile_eq_nil_iff]
      exact hafter
    rw [trim, hstart, hnone]
    rfl
  | cons c core =>
    have hkeep : trimLeft (c :: core ++ after) = c :: core ++ after :=
      trimLeft_eq_self_iff.mpr fun d hd => trimLeft_eq_self_iff.mp hleft d hd
    rw [trim, hstart, hkeep, hend]

theorem blanks_around_trim (t : Text) :
    ∃ before after, t = before ++ trim t ++ after ∧ (∀ c ∈ before, c.isBlank = true) ∧
      ∀ c ∈ after, c.isBlank = true := by
  refine ⟨t.takeWhile CodePoint.isBlank,
    ((trimLeft t).reverse.takeWhile CodePoint.isBlank).reverse, ?_, ?_, ?_⟩
  · have hend : trim t ++ ((trimLeft t).reverse.takeWhile CodePoint.isBlank).reverse =
        trimLeft t := by
      rw [trim, trimRight, ← List.reverse_append, List.takeWhile_append_dropWhile,
        List.reverse_reverse]
    rw [List.append_assoc, hend, trimLeft, List.takeWhile_append_dropWhile]
  · exact fun c hc => List.mem_takeWhile_imp hc
  · exact fun c hc => List.mem_takeWhile_imp (List.mem_reverse.mp hc)

theorem mem_of_mem_trim (hc : c ∈ trim t) : c ∈ t := by
  obtain ⟨before, after, heq, -, -⟩ := blanks_around_trim t
  rw [heq]
  exact List.mem_append_left _ (List.mem_append_right _ hc)

/-- Trimming twice is trimming once. -/
theorem trim_trim (t : Text) : trim (trim t) = trim t := by
  have hright : trimRight (trim t) = trim t := by
    rw [trim, trimRight, trimRight, List.reverse_reverse, List.dropWhile_idempotent _]
  refine trim_eq_self_iff.mpr ⟨trimLeft_eq_self_iff.mpr fun c hc => ?_, hright⟩
  -- The first code point of what is left stands at the start of the text without the blanks before.
  obtain ⟨after, hafter⟩ : trim t <+: trimLeft t := by
    rw [trim, trimRight, ← List.reverse_suffix, List.reverse_reverse]
    exact List.dropWhile_suffix _
  have hhead : (trimLeft t).head? = some c := by
    rw [← hafter, List.head?_append, hc, Option.some_or]
  have hsame : trimLeft (trimLeft t) = trimLeft t := List.dropWhile_idempotent _ _
  exact trimLeft_eq_self_iff.mp hsame c hhead

/-- A text that ends with a blank is trimmed like what stands before. -/
theorem trim_concat_blank (hc : c.isBlank = true) : trim (t ++ [c]) = trim t := by
  obtain ⟨before, after, heq, hbefore, hafter⟩ := blanks_around_trim t
  have hblank : ∀ d ∈ after ++ [c], d.isBlank = true := by
    simpa [or_imp, forall_and] using ⟨hafter, hc⟩
  calc trim (t ++ [c])
      = trim (before ++ trim t ++ (after ++ [c])) := by
        rw [← List.append_assoc, ← heq]
    _ = trim t := trim_append_blanks hbefore hblank (trim_trim t)

end Text

/-! ## Lower case, one code point at a time -/

namespace CodePoint

variable {c d : CodePoint}

/-- What a table of runs has for a number stands in one of the runs. -/
theorem exists_run_of_caseTarget? {runs : List (Nat × Nat × Nat × Nat)} {n m : Nat}
    (h : caseTarget? runs n = some m) :
    ∃ first last step target, (first, last, step, target) ∈ runs ∧ first ≤ n ∧ n ≤ last ∧
      m = target + (n - first) := by
  obtain ⟨⟨first, last, step, target⟩, hrun, hsome⟩ := List.exists_of_findSome?_eq_some h
  simp only at hsome
  split at hsome
  · next hbounds =>
    cases hsome
    exact ⟨first, last, step, target, hrun, hbounds.1, hbounds.2.1, rfl⟩
  · cases hsome

/-- The numbers that are the lower-case form of no other number: the capitals of ASCII,
the Kelvin sign, and the blanks. -/
def neverLower : List (Nat × Nat) :=
  [(0x41, 0x5A), (0x212A, 0x212A), (0x09, 0x0D), (0x1C, 0x20), (0x85, 0x85), (0xA0, 0xA0),
   (0x1680, 0x1680), (0x2000, 0x200A), (0x2028, 0x2029), (0x202F, 0x202F), (0x205F, 0x205F),
   (0x3000, 0x3000)]

/-- A number that may be the lower-case form of another one. -/
def MayBeLower (n : Nat) : Prop := ∀ range ∈ neverLower, n < range.1 ∨ range.2 < n

instance (n : Nat) : Decidable (MayBeLower n) := inferInstanceAs (Decidable (∀ range ∈ _, _))

theorem MayBeLower.not_blank (h : MayBeLower c.val) : c.isBlank = false := by
  simp only [MayBeLower, neverLower, List.forall_mem_cons] at h
  rw [Bool.eq_false_iff]
  intro hblank
  simp only [isBlank, Bool.or_eq_true, Bool.and_eq_true, decide_eq_true_eq, beq_iff_eq] at hblank
  omega

/-- A code point that is neither a capital of ASCII nor the Kelvin sign. -/
def IsSettled (c : CodePoint) : Prop := ¬(0x41 ≤ c.val ∧ c.val ≤ 0x5A) ∧ c.val ≠ 0x212A

instance (c : CodePoint) : Decidable c.IsSettled := inferInstanceAs (Decidable (_ ∧ _))

theorem MayBeLower.isSettled (h : MayBeLower c.val) : c.IsSettled := by
  simp only [MayBeLower, neverLower, List.forall_mem_cons] at h
  unfold IsSettled
  omega

/-- The targets of the table may be lower case. -/
theorem lowerRuns_mayBeLower : ∀ run ∈ CaseTable.lowerRuns,
    run.2.2.2 + (run.2.1 - run.1) < 0x110000 ∧ ∀ range ∈ neverLower,
      run.2.2.2 + (run.2.1 - run.1) < range.1 ∨ range.2 < run.2.2.2 := by
  decide +kernel

/-- Only capitals of ASCII and the Kelvin sign have a target in ASCII. -/
theorem lowerRuns_ascii : ∀ run ∈ CaseTable.lowerRuns,
    0x80 ≤ run.2.2.2 ∨ run.2.1 < 0x80 ∨ run.1 = 0x212A ∧ run.2.1 = 0x212A := by
  decide +kernel

theorem ofNat_val {n : Nat} (h : n < 0x110000) : (ofNat n).val = n := by
  rw [ofNat, dif_pos h]

/-- A lower-case form is the code point itself or one that may be lower case. -/
theorem lower_cases (hd : d ∈ c.lower) : d = c ∧ c.lower = [c] ∨ MayBeLower d.val := by
  have hall : ∀ e : CodePoint, c.lower = [e] → e = c ∨ MayBeLower e.val →
      d = c ∧ c.lower = [c] ∨ MayBeLower d.val := by
    intro e hlower he
    rw [hlower, List.mem_singleton] at hd
    subst hd
    rcases he with rfl | he
    · exact .inl ⟨rfl, hlower⟩
    · exact .inr he
  by_cases hascii : c.val < 0x80
  · have hlower : c.lower = [if 0x41 ≤ c.val ∧ c.val ≤ 0x5A then ofNat (c.val + 0x20) else c] := by
      rw [lower, if_pos hascii]
    refine hall _ hlower ?_
    split
    · refine .inr ?_
      rw [ofNat_val (by omega)]
      intro range hrange
      simp only [neverLower, List.mem_cons, List.not_mem_nil, or_false] at hrange
      rcases hrange with rfl | rfl | rfl | rfl | rfl | rfl | rfl | rfl | rfl | rfl | rfl | rfl <;>
        simp only <;> omega
    · exact .inl rfl
  · by_cases hdotted : c.val = 0x130
    · rw [lower, if_neg hascii, if_pos hdotted] at hd
      have hforms : ∀ e ∈ [ofNat 0x69, ofNat 0x307], MayBeLower e.val := by decide
      exact .inr (hforms d hd)
    · have hlower : c.lower = [((caseTarget? CaseTable.lowerRuns c.val).map ofNat).getD c] := by
        rw [lower, if_neg hascii, if_neg hdotted]
      refine hall _ hlower ?_
      cases htarget : caseTarget? CaseTable.lowerRuns c.val with
      | none => exact .inl rfl
      | some n =>
        obtain ⟨first, last, step, target, hrun, hfirst, hlast, rfl⟩ :=
          exists_run_of_caseTarget? htarget
        obtain ⟨hbound, havoid⟩ := lowerRuns_mayBeLower _ hrun
        refine .inr ?_
        rw [Option.map_some, Option.getD_some, ofNat_val (by simp only at hbound; omega)]
        intro range hrange
        have hrange := havoid range hrange
        simp only at hrange
        omega

theorem not_blank_of_mem_lower (hc : c.isBlank = false) (hd : d ∈ c.lower) : d.isBlank = false := by
  rcases lower_cases hd with ⟨rfl, -⟩ | hd
  · exact hc
  · exact hd.not_blank

theorem isSettled_of_mem_lower (hd : d ∈ c.lower) : d.IsSettled := by
  rcases lower_cases hd with ⟨rfl, hlower⟩ | hd
  · refine ⟨fun hcapital => ?_, fun hkelvin => ?_⟩
    · rw [lower, if_pos (by omega), if_pos hcapital] at hlower
      have hval := congrArg val (List.cons.inj hlower).1
      rw [ofNat_val (by omega)] at hval
      omega
    · have hsame : d = ofNat 0x212A := (ofNat_eq hkelvin.symm).symm
      rw [hsame] at hlower
      exact absurd hlower (by decide +kernel)
  · exact hd.isSettled

/-- A settled code point whose lower-case form is ASCII is that form. -/
theorem lower_eq_of_ascii (hc : c.IsSettled) (h : ∀ d ∈ c.lower, d.val < 0x80) :
    c.lower = [c] := by
  obtain ⟨hcapital, hkelvin⟩ := hc
  by_cases hascii : c.val < 0x80
  · rw [lower, if_pos hascii, if_neg hcapital]
  · by_cases hdotted : c.val = 0x130
    · rw [lower, if_neg hascii, if_pos hdotted] at h
      exact absurd (h (ofNat 0x307) (by simp)) (by decide)
    · rw [lower, if_neg hascii, if_neg hdotted] at h ⊢
      cases htarget : caseTarget? CaseTable.lowerRuns c.val with
      | none => rfl
      | some n =>
        obtain ⟨first, last, step, target, hrun, hfirst, hlast, rfl⟩ :=
          exists_run_of_caseTarget? htarget
        have hbound := (lowerRuns_mayBeLower _ hrun).1
        have htargets := lowerRuns_ascii _ hrun
        have hsmall := h (ofNat (target + (c.val - first))) (by simp [htarget])
        simp only at hbound htargets
        rw [ofNat_val (by omega)] at hsmall
        omega

end CodePoint

/-! ## Lower case of texts -/

namespace Text

variable {before t : Text}

/-- What stands for one code point in a lower-case text: nothing of it was blank unless
the code point was, and all of it is settled. -/
theorem lowerFrom_cons (before : Text) (c : CodePoint) (rest : Text) :
    ∃ form, lowerFrom before (c :: rest) = form ++ lowerFrom (c :: before) rest ∧ form ≠ [] ∧
      (∀ d ∈ form, d.IsSettled) ∧ (c.isBlank = false → ∀ d ∈ form, d.isBlank = false) ∧
      (c.IsSettled → (∀ d ∈ form, d.val < 0x80) → form = [c]) := by
  rw [lowerFrom]
  by_cases hsigma : c = CodePoint.capitalSigma
  · rw [if_pos hsigma]
    refine ⟨_, rfl, List.cons_ne_nil _ _, ?_, ?_, ?_⟩
    · simp only [List.mem_singleton, forall_eq]
      split <;> decide
    · intro _
      simp only [List.mem_singleton, forall_eq]
      split <;> decide
    · simp only [List.mem_singleton, forall_eq]
      split <;> exact fun _ h => absurd h (by decide)
  · rw [if_neg hsigma]
    refine ⟨c.lower, rfl, ?_, fun _ => CodePoint.isSettled_of_mem_lower,
      fun hc _ => CodePoint.not_blank_of_mem_lower hc, CodePoint.lower_eq_of_ascii⟩
    unfold CodePoint.lower
    split
    · exact List.cons_ne_nil _ _
    · split <;> exact List.cons_ne_nil _ _

theorem isSettled_of_mem_lowerFrom {d : CodePoint} (hd : d ∈ lowerFrom before t) :
    d.IsSettled := by
  induction t generalizing before with
  | nil => cases hd
  | cons c rest ih =>
    obtain ⟨form, hform, -, hsettled, -⟩ := lowerFrom_cons before c rest
    rw [hform, List.mem_append] at hd
    exact hd.elim (hsettled d) ih

/-- A settled text whose lower-case form is ASCII is that form. -/
theorem lowerFrom_eq_of_ascii (ht : ∀ c ∈ t, c.IsSettled)
    (h : ∀ d ∈ lowerFrom before t, d.val < 0x80) : lowerFrom before t = t := by
  induction t generalizing before with
  | nil => rfl
  | cons c rest ih =>
    obtain ⟨form, hform, -, -, -, hsame⟩ := lowerFrom_cons before c rest
    rw [hform] at h ⊢
    rw [hsame (ht c List.mem_cons_self) fun d hd => h d (List.mem_append_left _ hd),
      ih (fun d hd => ht d (List.mem_cons_of_mem c hd))
        (fun d hd => h d (List.mem_append_right _ hd))]
    rfl

/-- The last form of a lower-case text is that of the last code point. -/
theorem lowerFrom_getLast? (ht : ∀ c, t.getLast? = some c → c.isBlank = false) {d : CodePoint}
    (hd : (lowerFrom before t).getLast? = some d) : d.isBlank = false := by
  induction t generalizing before with
  | nil => cases hd
  | cons c rest ih =>
    obtain ⟨form, hform, -, -, hblank, -⟩ := lowerFrom_cons before c rest
    rw [hform] at hd
    cases rest with
    | nil =>
      rw [lowerFrom, List.append_nil] at hd
      exact hblank (ht c rfl) d (List.mem_of_getLast? hd)
    | cons next rest =>
      obtain ⟨nextForm, hnext, hne, -⟩ := lowerFrom_cons (c :: before) next rest
      have hlater : lowerFrom (c :: before) (next :: rest) ≠ [] := by
        rw [hnext]
        exact List.append_ne_nil_of_left_ne_nil hne _
      have hrest : ∀ last, (next :: rest).getLast? = some last → last.isBlank = false :=
        fun last hlast => ht last (by rwa [List.getLast?_cons_cons])
      cases hlast : (lowerFrom (c :: before) (next :: rest)).getLast? with
      | none => exact absurd (List.getLast?_eq_none_iff.mp hlast) hlater
      | some last =>
        rw [List.getLast?_append, hlast, Option.some_or] at hd
        exact ih hrest (hlast.trans hd)

/-- Lower case leaves the ends of a text not blank if they were not. -/
theorem trim_lower (ht : trim t = t) : trim (lower t) = lower t := by
  obtain ⟨hleft, hright⟩ := trim_eq_self_iff.mp ht
  rw [trimLeft_eq_self_iff] at hleft
  rw [trimRight_eq_self_iff] at hright
  refine trim_eq_self_iff.mpr ⟨trimLeft_eq_self_iff.mpr fun d hd => ?_,
    trimRight_eq_self_iff.mpr fun d => lowerFrom_getLast? hright⟩
  cases t with
  | nil => cases hd
  | cons c rest =>
    obtain ⟨form, hform, hne, -, hblank, -⟩ := lowerFrom_cons [] c rest
    obtain ⟨first, more, rfl⟩ := List.exists_cons_of_ne_nil hne
    rw [lower, hform, List.cons_append, List.head?_cons, Option.some.injEq] at hd
    exact hblank (hleft c rfl) d (hd ▸ List.mem_cons_self)

end Text

/-! ## Languages -/

namespace Language

theorem normal_of_trimmed {language : Text} (h : Text.trim language = language) :
    normal language = language.lower := by
  rw [normal, h]

/-- The known names are in ASCII and in lower case. -/
theorem extensions_ascii : ∀ entry ∈ extensions,
    (∀ c ∈ entry.1, c.val < 0x80) ∧ entry.1.lower = entry.1 := by
  decide +kernel

/-- A language read twice has the extension that it has when read once. -/
theorem extension_normal {language : Text} (h : Text.trim language = language) :
    extension (normal language) = extension language := by
  have htwice : normal (normal language) = (normal language).lower := by
    rw [normal_of_trimmed h]
    exact normal_of_trimmed (Text.trim_lower h)
  have hknown : ∀ {name found : Text}, extensions.lookup name = some found →
      (∀ c ∈ name, c.val < 0x80) ∧ name.lower = name := by
    intro name found hlookup
    obtain ⟨before, after, hsplit, -⟩ := List.lookup_eq_some_iff.mp hlookup
    exact extensions_ascii (name, found) (by rw [hsplit]; simp)
  have hsame : extensions.lookup (normal language).lower = extensions.lookup (normal language) := by
    cases hlower : extensions.lookup (normal language).lower with
    | some found =>
      have hsettled : ∀ c ∈ normal language, c.IsSettled := by
        rw [normal_of_trimmed h]
        exact fun c => Text.isSettled_of_mem_lowerFrom
      have hfixed : (normal language).lower = normal language :=
        Text.lowerFrom_eq_of_ascii hsettled (hknown hlower).1
      rw [← hlower, hfixed]
    | none =>
      cases hname : extensions.lookup (normal language) with
      | none => rfl
      | some found =>
        rw [(hknown hname).2, hname] at hlower
        cases hlower
  rw [extension, extension, htwice, hsame]

end Language

end ProseCompiler
