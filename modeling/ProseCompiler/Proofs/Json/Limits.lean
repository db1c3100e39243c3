import ProseCompiler.Proofs.Json.Numerals

/-!
# The limits of the JSON reader

A text that is not JSON is malformed at some place.  The reader refuses two kinds of
text for another reason: an integer with more digits than it converts, and arrays and
objects that stand too deep inside one another.  `Refuses` says what a text has to
hold for that, and `refuses_of_read` that there is no other way.

Every part of the reader leaves a suffix of what it was given, or refuses for
something that is in there (`Within`), by induction on the fuel.
-/

namespace ProseCompiler.Json

/-- How many arrays and objects a text opens at most. -/
def openings (t : Text) : Nat := t.countP fun c : CodePoint => c = '[' || c = '\x7b'

/-- What has to be in a text that is refused where `depth` more arrays and objects may
be opened: nothing in particular, a long run of digits, or more openings than that. -/
def Refuses (depth : Nat) (t : Text) : ReadFault → Prop
  | .malformed _ _ => True
  | .tooManyDigits n => n > Number.digitLimit ∧
      ∃ digits : Text, digits.length = n ∧ (∀ c ∈ digits, c.isDigit = true) ∧ digits <:+: t
  | .tooDeep _ => depth < openings t

/-- A reading of a text that leaves some end of it, or refuses what is in it. -/
def Within {α : Type} (depth : Nat) (t : Text) : Read α → Prop
  | .ok (_, _, rest) => rest <:+ t
  | .error fault => Refuses depth t fault

variable {depth position : Nat} {s t : Text} {fault : ReadFault}

theorem openings_le_of_suffix (h : s <:+ t) : openings s ≤ openings t :=
  h.sublist.countP_le

theorem Refuses.of_suffix (hfault : Refuses depth s fault) (h : s <:+ t) :
    Refuses depth t fault := by
  cases fault with
  | malformed => trivial
  | tooManyDigits n =>
    obtain ⟨hn, digits, hlength, hdigits, hinfix⟩ := hfault
    exact ⟨hn, digits, hlength, hdigits, hinfix.trans h.isInfix⟩
  | tooDeep => exact Nat.lt_of_lt_of_le hfault (openings_le_of_suffix h)

theorem Within.of_suffix {α : Type} {reading : Read α} (hreading : Within depth s reading)
    (h : s <:+ t) : Within depth t reading := by
  match reading with
  | .ok (_, _, _) => exact List.IsSuffix.trans hreading h
  | .error _ => exact Refuses.of_suffix hreading h

/-- What is read behind an opening has one opening less to spare. -/
theorem Within.behind_opening {α : Type} {reading : Read α} {c : CodePoint}
    (hreading : Within depth s reading) (hc : c = '[' ∨ c = '\x7b') (h : s <:+ t) :
    Within (depth + 1) (c :: t) reading := by
  have hsuffix : s <:+ c :: t := h.trans (List.suffix_cons c t)
  match reading with
  | .ok (_, _, _) => exact List.IsSuffix.trans hreading hsuffix
  | .error fault =>
    cases fault with
    | malformed => trivial
    | tooManyDigits n =>
      obtain ⟨hn, digits, hlength, hdigits, hinfix⟩ := hreading
      exact ⟨hn, digits, hlength, hdigits, hinfix.trans hsuffix.isInfix⟩
    | tooDeep =>
      have hdepth : depth < openings t := Nat.lt_of_lt_of_le hreading (openings_le_of_suffix h)
      have hopenings : openings (c :: t) = openings t + 1 :=
        List.countP_cons_of_pos (by simpa using hc)
      show depth + 1 < openings (c :: t)
      rw [hopenings]
      exact Nat.succ_lt_succ hdepth

/-! ## Parts of values -/

theorem skipGaps_suffix (position : Nat) (t : Text) : (skipGaps position t).2 <:+ t := by
  induction t generalizing position with
  | nil => exact List.suffix_refl []
  | cons c t ih =>
    rw [skipGaps]
    split
    · exact (ih _).trans (List.suffix_cons c t)
    · exact List.suffix_refl _

theorem numberedEscape_within (depth : Nat) (h : numberedEscape position t = .error fault) :
    Refuses depth s fault := by
  unfold numberedEscape at h
  repeat' split at h
  all_goals cases h
  all_goals trivial

theorem stringFrom_within (depth start position : Nat) (done : Text) (skipped : Nat) (t : Text) :
    Within depth t (stringFrom start position done skipped t) := by
  fun_induction stringFrom start position done skipped t with
  | case1 => trivial
  | case2 position done skipped c rest ih => exact ih.of_suffix (List.suffix_cons c rest)
  | case3 => exact List.suffix_cons _ _
  | case4 => trivial
  | case5 => trivial
  | case6 _ _ _ _ hescape => exact numberedEscape_within depth hescape
  | case7 _ _ _ _ _ _ _ _ ih => exact ih.of_suffix (List.suffix_cons _ _)
  | case8 _ _ _ _ _ _ _ _ _ ih => exact ih.of_suffix (List.suffix_cons _ _)
  | case9 => trivial
  | case10 _ _ _ _ _ _ _ ih => exact ih.of_suffix (List.suffix_cons _ _)

theorem afterStart?_suffix {start rest : Text} (h : Text.afterStart? t start = some rest) :
    rest <:+ t := by
  induction start generalizing t with
  | nil =>
    rw [Text.afterStart?.eq_def] at h
    cases h
    exact List.suffix_refl _
  | cons d start ih =>
    cases t with
    | nil => cases h
    | cons c t =>
      rw [Text.afterStart?] at h
      split at h
      · exact (ih h).trans (List.suffix_cons c t)
      · cases h

/-- A numeral ends where its text goes on, and its whole part is a run of digits. -/
theorem numeral?_parts {n : Numeral} (h : numeral? t = some n) :
    n.rest <:+ t ∧ n.whole <:+: t ∧ ∀ c ∈ n.whole, c.isDigit = true := by
  rw [numeral?.eq_def] at h
  split at h
  next negative body hsigned =>
  have hbody : body <:+ t := by
    split at hsigned
    · split at hsigned
      · cases hsigned
        exact List.suffix_cons _ _
      · cases hsigned
        exact List.suffix_refl _
    · cases hsigned
      exact List.nil_suffix
  simp only at h
  cases body with
  | nil => cases h
  | cons c more =>
    by_cases hzero : c = '0'
    · simp only [if_pos hzero] at h
      cases h
      refine ⟨((List.drop_suffix _ _).trans (List.drop_suffix _ _)).trans hbody, ?_, ?_⟩
      · exact (List.prefix_append [c] more).isInfix.trans hbody.isInfix
      · rw [List.forall_mem_singleton, hzero]
        decide
    · simp only [if_neg hzero] at h
      split at h
      · cases h
      · cases h
        refine ⟨((List.drop_suffix _ _).trans (List.drop_suffix _ _)).trans hbody, ?_, ?_⟩
        · exact (List.takeWhile_prefix _).isInfix.trans hbody.isInfix
        · exact List.all_eq_true.mp List.all_takeWhile

/-- A word or a number is left behind, or it is an integer with too many digits. -/
theorem scalarAt_within (depth position : Nat) (t : Text) :
    Within depth t (scalarAt position t) := by
  rw [scalarAt]
  split
  · next found hwords =>
    obtain ⟨entry, -, hentry⟩ := List.exists_of_findSome?_eq_some hwords
    obtain ⟨rest, hrest, rfl⟩ := Option.map_eq_some_iff.mp hentry
    exact afterStart?_suffix hrest
  · split
    · trivial
    · next n hnumeral =>
      obtain ⟨hrest, hwhole, hdigits⟩ := numeral?_parts hnumeral
      rw [Numeral.value]
      split
      · split
        · next hlong => exact ⟨hlong, n.whole, rfl, hdigits, hwhole⟩
        · exact hrest
      · exact hrest

/-! ## Values -/

theorem Within.map {α β : Type} {reading : Read α} (hreading : Within depth t reading) (f : α → β) :
    Within depth t (reading.map fun (x, after) => (f x, after)) := by
  match reading with
  | .ok (_, _, _) => exact hreading
  | .error _ => exact hreading

/-- Values are within their text, with a bound on the fuel. -/
def ValuesWithin (fuel : Nat) : Prop :=
  ∀ depth position t, Within depth t (valueAt fuel depth position t)

/-- So are the items of arrays. -/
def ItemsWithin (fuel : Nat) : Prop :=
  ∀ depth position done t, Within depth t (itemsAt fuel depth position done t)

/-- So are the fields of objects. -/
def FieldsWithin (fuel : Nat) : Prop :=
  ∀ depth position done t, Within depth t (fieldsAt fuel depth position done t)

variable {fuel : Nat}

theorem openings_pos {c : CodePoint} (hc : c = '[' ∨ c = '\x7b') (t : Text) :
    0 < openings (c :: t) :=
  List.countP_pos_iff.mpr ⟨c, List.mem_cons_self, by simpa using hc⟩

theorem valuesWithin_succ (hitems : ItemsWithin fuel) (hfields : FieldsWithin fuel) :
    ValuesWithin (fuel + 1) := by
  intro depth position t
  cases t with
  | nil =>
    rw [valueAt]
    trivial
  | cons c rest =>
    have hgaps := skipGaps_suffix (position + 1) rest
    rw [valueAt.eq_def]
    simp only
    split
    · exact ((stringFrom_within depth position (position + 1) [] 0 rest).of_suffix
        (List.suffix_cons c rest)).map Json.text
    split
    · next hopen =>
      cases depth with
      | zero => exact openings_pos (.inl hopen) rest
      | succ depth =>
        refine Within.behind_opening ?_ (.inl hopen) hgaps
        simp only
        generalize skipGaps (position + 1) rest = skipped
        rcases skipped with ⟨position', _ | ⟨d, after⟩⟩
        · exact hitems ..
        · simp only
          split
          · exact List.suffix_cons d after
          · exact hitems ..
    split
    · next hopen =>
      cases depth with
      | zero => exact openings_pos (.inr hopen) rest
      | succ depth =>
        refine Within.behind_opening ?_ (.inr hopen) hgaps
        simp only
        generalize skipGaps (position + 1) rest = skipped
        rcases skipped with ⟨position', _ | ⟨d, after⟩⟩
        · exact hfields ..
        · simp only
          split
          · exact List.suffix_cons d after
          · exact hfields ..
    · exact scalarAt_within depth position (c :: rest)

theorem itemsWithin_succ (hvalue : ValuesWithin fuel) (hitems : ItemsWithin fuel) :
    ItemsWithin (fuel + 1) := by
  intro depth position done t
  have hread := hvalue depth position t
  rw [itemsAt]
  generalize valueAt fuel depth position t = reading at hread ⊢
  rcases reading with fault | ⟨value, position, rest⟩
  · exact hread
  have hgaps := (skipGaps_suffix position rest).trans hread
  simp only
  generalize skipGaps position rest = skipped at hgaps ⊢
  rcases skipped with ⟨position, _ | ⟨c, after⟩⟩
  · trivial
  have hafter : after <:+ t := (List.suffix_cons c after).trans hgaps
  simp only
  split
  · exact hafter
  split
  · exact (hitems ..).of_suffix ((skipGaps_suffix (position + 1) after).trans hafter)
  · trivial

theorem fieldsWithin_succ (hvalue : ValuesWithin fuel) (hfields : FieldsWithin fuel) :
    FieldsWithin (fuel + 1) := by
  intro depth position done t
  rw [fieldsAt.eq_def]
  simp only
  rcases t with _ | ⟨quote, t⟩
  · trivial
  have hname := (stringFrom_within depth position (position + 1) [] 0 t).of_suffix
    (List.suffix_cons quote t)
  simp only
  generalize stringFrom position (position + 1) [] 0 t = reading at hname ⊢
  by_cases hquote : quote = '"'
  · rw [if_pos hquote]
    rcases reading with fault | ⟨name, position, rest⟩
    · exact hname
    have hgaps := (skipGaps_suffix position rest).trans hname
    simp only
    generalize skipGaps position rest = skipped at hgaps ⊢
    rcases skipped with ⟨position, _ | ⟨colon, rest⟩⟩
    · trivial
    simp only
    split
    · have hbehind := (skipGaps_suffix (position + 1) rest).trans
        ((List.suffix_cons colon rest).trans hgaps)
      generalize skipGaps (position + 1) rest = skipped at hbehind ⊢
      obtain ⟨position, rest⟩ := skipped
      have hread := (hvalue depth position rest).of_suffix hbehind
      simp only
      generalize valueAt fuel depth position rest = reading at hread ⊢
      rcases reading with fault | ⟨value, position, rest⟩
      · exact hread
      have hgaps := (skipGaps_suffix position rest).trans hread
      simp only
      generalize skipGaps position rest = skipped at hgaps ⊢
      rcases skipped with ⟨position, _ | ⟨c, after⟩⟩
      · trivial
      have hafter := (List.suffix_cons c after).trans hgaps
      simp only
      split
      · exact hafter
      split
      · exact (hfields ..).of_suffix ((skipGaps_suffix (position + 1) after).trans hafter)
      · trivial
    · trivial
  · rw [if_neg hquote]
    trivial

/-- Whatever the parts of the reader leave or refuse is in the text. -/
theorem all_within (fuel : Nat) : ValuesWithin fuel ∧ ItemsWithin fuel ∧ FieldsWithin fuel := by
  induction fuel with
  | zero =>
    refine ⟨fun _ _ _ => ?_, fun _ _ _ _ => ?_, fun _ _ _ _ => ?_⟩
    · rw [valueAt]
      trivial
    · rw [itemsAt]
      trivial
    · rw [fieldsAt]
      trivial
  | succ fuel ih =>
    obtain ⟨hvalue, hitems, hfields⟩ := ih
    exact ⟨valuesWithin_succ hitems hfields, itemsWithin_succ hvalue hitems,
      fieldsWithin_succ hvalue hfields⟩

/-- A text that is refused as a whole holds what it is refused for. -/
theorem refuses_of_read (h : read t = .error fault) : Refuses depthLimit t fault := by
  rw [read] at h
  split at h
  · cases h
    trivial
  · have hread := ((all_within (t.length + 1)).1 depthLimit (skipGaps 0 t).1
      (skipGaps 0 t).2).of_suffix (skipGaps_suffix 0 t)
    simp only at h
    split at h
    · next heq =>
      cases h
      rw [heq] at hread
      exact hread
    · split at h
      · cases h
      · cases h
        trivial

/-! ## A text that is one long integer -/

section LongInteger

variable {digits : Text} (hdigits : ∀ c ∈ digits, c.isDigit = true)
  (hzero : digits.head? ≠ some ('0' : CodePoint))

include hdigits in
theorem head?_ne_of_digits {d : CodePoint} (hd : d.isDigit = false) : digits.head? ≠ some d := by
  intro h
  rw [hdigits d (List.mem_of_head? h)] at hd
  cases hd

include hdigits hzero in
theorem scalarAt_of_digits (position : Nat) (hlong : digits.length > Number.digitLimit) :
    scalarAt position digits = .error (.tooManyDigits digits.length) := by
  have hwhole : IsWhole digits := by
    refine ⟨?_, hdigits, fun h => absurd h hzero⟩
    rintro rfl
    exact absurd hlong (Nat.not_lt_zero _)
  have hread := scalarAt_signed hwhole endsNumeral_nil false position
  rwa [List.append_nil, if_pos hlong] at hread

include hdigits hzero in
/-- An integer that is too long is not read. -/
theorem read_of_digits (hlong : digits.length > Number.digitLimit) :
    read digits = .error (.tooManyDigits digits.length) := by
  have hscalar := fun position => scalarAt_of_digits hdigits hzero position hlong
  have hmark := head?_ne_of_digits hdigits
    (show (CodePoint.ofNat 0xFEFF).isDigit = false by decide)
  have hquote := head?_ne_of_digits hdigits (show CodePoint.isDigit '"' = false by decide)
  have hbracket := head?_ne_of_digits hdigits (show CodePoint.isDigit '[' = false by decide)
  have hbrace := head?_ne_of_digits hdigits (show CodePoint.isDigit '\x7b' = false by decide)
  obtain ⟨c, more, rfl⟩ := List.exists_cons_of_ne_nil (l := digits) (by
    rintro rfl
    exact absurd hlong (Nat.not_lt_zero _))
  have hgap := isGap_of_isDigit (hdigits c List.mem_cons_self)
  simp only [List.head?_cons, ne_eq, Option.some.injEq] at hmark hquote hbracket hbrace
  rw [read, List.head?_cons, if_neg (by simpa using hmark)]
  rw [skipGaps, if_neg (by simp [hgap])]
  simp only
  rw [valueAt.eq_def]
  simp only [if_neg hquote, if_neg hbracket, if_neg hbrace, hscalar]

end LongInteger

end ProseCompiler.Json
